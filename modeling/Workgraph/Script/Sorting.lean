/-!
# Sorting by questions

A list is sorted by asking whether one item is less than another. The question may have effects, so
which questions are asked, and in which order, belongs to the result. `Sorting.sort` is stable and
asks as follows.

* Up to twenty items are inserted one after the other, each compared from the right.
* More are cut into runs. A stretch that rises, or strictly falls, over enough items is a run as it
  is; other items form runs of a fixed length, which are sorted at once when the list is short and
  by partition when they are merged otherwise.
* Runs are merged in the order of a balanced tree over the positions where they meet.
* Partition goes by a median of three items, or of medians; items equal to the pivot are set aside
  when the pivot is not greater than the one to the left. Few items are sorted in two halves that
  are merged from both ends.
-/

namespace Workgraph.Script.Sorting

variable {m : Type → Type} [Monad m] {α : Type}

/-! ## 1. Few items -/

/-- Inserts an item into a sorted list that has its last item first. -/
def insertLast (less : α → α → m Bool) (x : α) : List α → m (List α)
  | [] => return [x]
  | y :: ys => do
    if ← less x y then return y :: (← insertLast less x ys)
    else return x :: y :: ys

/-- Inserts items one after the other behind sorted ones. -/
def extend (less : α → α → m Bool) (sorted items : List α) : m (List α) :=
  return (← items.foldlM (fun acc x => insertLast less x acc) sorted.reverse).reverse

/-- Four items sorted by five questions. -/
def sortFour (less : α → α → m Bool) (w x y z : α) : m (List α) := do
  let (a, b) := if ← less x w then (x, w) else (w, x)
  let (c, d) := if ← less z y then (z, y) else (y, z)
  let first ← less c a
  let last ← less d b
  let least := if first then c else a
  let greatest := if last then b else d
  let left := if first then a else if last then c else b
  let right := if last then d else if first then b else c
  if ← less right left then return [least, right, left, greatest]
  else return [least, left, right, greatest]

/-- What is left of two sorted lists that are merged from both ends: the lists from the front, the
lists from the back, and how many items of the left one were taken. -/
structure Ends (α : Type) where
  left : List α
  right : List α
  leftBack : List α
  rightBack : List α
  taken : Nat := 0

/-- Takes the lesser of the first items. -/
def Ends.takeFront (less : α → α → m Bool) (e : Ends α) : m (Option α × Ends α) := do
  match e.left, e.right with
  | a :: as, b :: bs =>
    if ← less b a then return (some b, { e with right := bs })
    else return (some a, { e with left := as, taken := e.taken + 1 })
  | a :: as, [] => return (some a, { e with left := as, taken := e.taken + 1 })
  | [], b :: bs => return (some b, { e with right := bs })
  | [], [] => return (none, e)

/-- Takes the greater of the last items. -/
def Ends.takeBack (less : α → α → m Bool) (e : Ends α) : m (Option α × Ends α) := do
  match e.leftBack, e.rightBack with
  | a :: as, b :: bs =>
    if ← less b a then return (some a, { e with leftBack := as, taken := e.taken + 1 })
    else return (some b, { e with rightBack := bs })
  | a :: as, [] => return (some a, { e with leftBack := as, taken := e.taken + 1 })
  | [], b :: bs => return (some b, { e with rightBack := bs })
  | [], [] => return (none, e)

/-- Takes an item from the front and one from the back, a number of times. -/
def mergeRounds (less : α → α → m Bool) :
    Nat → List α → List α → Ends α → m (List α × List α × Ends α)
  | 0, front, back, e => return (front, back, e)
  | n + 1, front, back, e => do
    let (first, e) ← e.takeFront less
    let (last, e) ← e.takeBack less
    mergeRounds less n (front ++ first.toList) (last.toList ++ back) e

/-- Merges two sorted lists, the right one as long or longer by one, from both ends. -/
def mergeEnds (less : α → α → m Bool) (left right : List α) : m (List α) := do
  let (front, back, e) ← mergeRounds less left.length [] []
    { left, right, leftBack := left.reverse, rightBack := right.reverse }
  let middle :=
    if left.length = right.length then []
    else if e.taken < left.length then e.left.take 1 else e.right.take 1
  return front ++ middle ++ back

/-- Eight items, sorted by fours. -/
def sortEight (less : α → α → m Bool) : List α → m (List α)
  | [a, b, c, d, e, f, g, h] => do
    let left ← sortFour less a b c d
    mergeEnds less left (← sortFour less e f g h)
  | xs => return xs

/-- Sorts the first items of a half: eight, four or one, as the whole has sixteen items, eight or
fewer. -/
def sortFirst (less : α → α → m Bool) : List α → m (List α)
  | [a, b, c, d] => sortFour less a b c d
  | xs => sortEight less xs

/-- Sorts up to thirty-two items in two halves. -/
def sortHalves (less : α → α → m Bool) (xs : List α) : m (List α) := do
  if xs.length < 2 then return xs
  else
    let left := xs.take (xs.length / 2)
    let right := xs.drop (xs.length / 2)
    let first := if 16 ≤ xs.length then 8 else if 8 ≤ xs.length then 4 else 1
    let leftFirst ← sortFirst less (left.take first)
    let rightFirst ← sortFirst less (right.take first)
    let left ← extend less leftFirst (left.drop first)
    let right ← extend less rightFirst (right.drop first)
    mergeEnds less left right

/-! ## 2. Merging -/

/-- Merges from the front. -/
def mergeFront (less : α → α → m Bool) (acc : List α) : List α → List α → m (List α)
  | [], bs => return acc.reverse ++ bs
  | as, [] => return acc.reverse ++ as
  | a :: as, b :: bs => do
    if ← less b a then mergeFront less (b :: acc) (a :: as) bs
    else mergeFront less (a :: acc) as (b :: bs)
termination_by as bs => as.length + bs.length

/-- Merges lists that have their last items first, from there. -/
def mergeBack (less : α → α → m Bool) (acc : List α) : List α → List α → m (List α)
  | [], bs => return bs.reverse ++ acc
  | as, [] => return as.reverse ++ acc
  | a :: as, b :: bs => do
    if ← less b a then mergeBack less (a :: acc) as (b :: bs)
    else mergeBack less (b :: acc) (a :: as) bs
termination_by as bs => as.length + bs.length

/-- Merges two sorted lists from the side of the shorter one. -/
def merge (less : α → α → m Bool) (left right : List α) : m (List α) :=
  if left.length ≤ right.length then mergeFront less [] left right
  else mergeBack less [] left.reverse right.reverse

/-! ## 3. Runs -/

structure Run (α : Type) where
  items : List α
  isSorted : Bool

/-- The number of items, with `n` before them, at the front that rise, or that fall strictly if
`falls`, after an item. -/
def stretch (less : α → α → m Bool) (falls : Bool) (n : Nat) (before : α) : List α → m Nat
  | [] => return n
  | x :: xs => do
    if (← less x before) == falls then stretch less falls (n + 1) x xs else return n

/-- The number of items of the run at the front, and whether they fall. -/
def frontRun (less : α → α → m Bool) : List α → m (Nat × Bool)
  | x :: y :: ys => do
    let falls ← less y x
    return (← stretch less falls 2 y ys, falls)
  | xs => return (xs.length, false)

/-- The number of items that make a stretch worth keeping as a run. -/
def goodLength (n : Nat) : Nat :=
  if n ≤ 4096 then min (n - n / 2) 64
  else
    let shift := (1 + n.log2) / 2
    ((1 <<< shift) + (n >>> shift)) / 2

/-- The most items that are sorted in two halves. -/
def fewItems : Nat := 32

/-- Takes a run off the front. -/
def takeRun (less : α → α → m Bool) (good : Nat) (eager : Bool) (xs : List α) :
    m (Run α × List α) := do
  let (n, falls) ← if good ≤ xs.length then frontRun less xs else pure (0, false)
  if good ≤ xs.length && good ≤ n then
    let items := xs.take n
    return ({ items := if falls then items.reverse else items, isSorted := true }, xs.drop n)
  else if eager then
    return ({ items := ← sortHalves less (xs.take fewItems), isSorted := true }, xs.drop fewItems)
  else return ({ items := xs.take good, isSorted := false }, xs.drop good)

/-- How deep in the tree over `n` positions two runs are merged that begin at `left`, meet at `mid`
and end at `right`: the number of leading binary digits that the middles of the two share. -/
def mergeDepth (n left mid right : Nat) : Nat :=
  let scale : UInt64 := ((4611686018427387904 + n - 1) / n).toUInt64
  let apart := (scale * (left + mid).toUInt64) ^^^ (scale * (mid + right).toUInt64)
  if apart = 0 then 64 else 63 - apart.toNat.log2

/-- One run out of two; when neither is sorted, that is left for later. -/
def joinRuns (less : α → α → m Bool) (sortRun : List α → m (List α)) (left right : Run α) :
    m (Run α) := do
  if left.isSorted || right.isSorted then
    let as ← if left.isSorted then pure left.items else sortRun left.items
    let bs ← if right.isSorted then pure right.items else sortRun right.items
    return { items := ← merge less as bs, isSorted := true }
  else return { items := left.items ++ right.items, isSorted := false }

/-- Joins a run with those before it that are to be merged at a depth or deeper. -/
def joinDeeper (less : α → α → m Bool) (sortRun : List α → m (List α)) (depth : Nat) :
    List (Run α × Nat) → Run α → m (Run α × List (Run α × Nat))
  | [], run => return (run, [])
  | (before, d) :: stack, run => do
    if depth ≤ d then joinDeeper less sortRun depth stack (← joinRuns less sortRun before run)
    else return (run, (before, d) :: stack)

/-- Sorts what is behind a run that ends at a position, where `stack` are the runs before it. -/
def joinAll (less : α → α → m Bool) (sortRun : List α → m (List α)) (eager : Bool) (n : Nat) :
    Nat → List (Run α × Nat) → Run α → Nat → List α → m (Run α)
  | 0, _, run, _, _ => return run
  | fuel + 1, stack, run, mid, rest => do
    if rest.isEmpty then
      return (← joinDeeper less sortRun 0 stack run).1
    else
      let (next, rest) ← takeRun less (goodLength n) eager rest
      let right := mid + next.items.length
      let depth := mergeDepth n (mid - run.items.length) mid right
      let (run, stack) ← joinDeeper less sortRun depth stack run
      joinAll less sortRun eager n fuel ((run, depth) :: stack) next right rest

/-- Sorts by runs; `sortRun` sorts those that were left unsorted. -/
def sortRuns (less : α → α → m Bool) (sortRun : List α → m (List α)) (eager : Bool)
    (xs : List α) : m (List α) := do
  let n := xs.length
  let (run, rest) ← takeRun less (goodLength n) eager xs
  let run ← joinAll less sortRun eager n (n + 1) [] run run.items.length rest
  if run.isSorted then return run.items else sortRun run.items

/-! ## 4. Partition -/

/-- The position of the median of the items at three positions. -/
def median (less : α → α → m Bool) (xs : Array α) (a b c : Nat) : m Nat := do
  match xs[a]?, xs[b]?, xs[c]? with
  | some x, some y, some z =>
    let xy ← less x y
    let xz ← less x z
    if xy == xz then return if (← less y z) == xy then b else c
    else return a
  | _, _, _ => return a

/-- The position of a median of medians, of stretches of `n` items from three positions on. -/
def medianDeep (less : α → α → m Bool) (xs : Array α) (a b c n : Nat) : m Nat := do
  if h : 8 ≤ n then
    let deeper (p : Nat) : m Nat :=
      medianDeep less xs p (p + n / 8 * 4) (p + n / 8 * 7) (n / 8)
    let a ← deeper a
    let b ← deeper b
    median less xs a b (← deeper c)
  else median less xs a b c
termination_by n

/-- The position of the pivot. -/
def pivotOf (less : α → α → m Bool) (xs : List α) : m Nat :=
  let n := xs.length / 8
  let ys := xs.toArray
  if xs.length < 64 then median less ys 0 (n * 4) (n * 7)
  else medianDeep less ys 0 (n * 4) (n * 7) n

/-- The items that go left and the others; the one at the pivot's position is not asked about. -/
def partition (goesLeft : α → m Bool) (pivotGoesLeft : Bool) :
    Nat → List α → List α → List α → m (List α × List α)
  | _, left, right, [] => return (left.reverse, right.reverse)
  | 0, left, right, x :: xs =>
    let (left, right) := if pivotGoesLeft then (x :: left, right) else (left, x :: right)
    rest left right xs
  | pos + 1, left, right, x :: xs => do
    if ← goesLeft x then partition goesLeft pivotGoesLeft pos (x :: left) right xs
    else partition goesLeft pivotGoesLeft pos left (x :: right) xs
where
  /-- The items behind the pivot. -/
  rest (left right : List α) : List α → m (List α × List α)
    | [] => return (left.reverse, right.reverse)
    | x :: xs => do
      if ← goesLeft x then rest (x :: left) right xs else rest left (x :: right) xs

/-- Sorts by partition, at most `limit` deep; `before` is the pivot to the left, which is not
greater than any item. -/
def sortParts (less : α → α → m Bool) : Nat → Nat → Option α → List α → m (List α)
  | 0, _, _, xs => return xs
  | fuel + 1, limit, before, xs => do
    if xs.length ≤ fewItems then sortHalves less xs
    else
      match limit with
      | 0 => sortRuns less pure true xs
      | limit + 1 =>
        let pos ← pivotOf less xs
        match xs[pos]? with
        | none => return xs
        | some pivot =>
          let same ← match before with
            | some b => do pure !(← less b pivot)
            | none => pure false
          let (left, right) ←
            if same then pure ([], xs) else partition (less · pivot) false pos [] [] xs
          if left.isEmpty then
            let (equal, greater) ←
              partition (fun x => do return !(← less pivot x)) true pos [] [] xs
            return equal ++ (← sortParts less fuel limit none greater)
          else
            let right ← sortParts less fuel limit (some pivot) right
            return (← sortParts less fuel limit before left) ++ right

/-- The depth of partitions after which a list is sorted by runs: twice the binary logarithm. -/
def partsLimit (n : Nat) : Nat := 2 * (n ||| 1).log2

/-- Sorts a list. -/
def sort (less : α → α → m Bool) (xs : List α) : m (List α) :=
  if xs.length ≤ 20 then extend less [] xs
  else
    let byParts (ys : List α) : m (List α) :=
      sortParts less (ys.length + 1) (partsLimit ys.length) none ys
    sortRuns less byParts (xs.length ≤ 2 * fewItems) xs

end Workgraph.Script.Sorting
