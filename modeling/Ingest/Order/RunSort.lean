/-!
# Stable sorting by runs, galloping merges and powers

`runSort` sorts a list stably with a comparison that may fail, or that may not be a total
order, and makes its comparisons in a fixed order: the result, and the first failing
comparison (the one reported), are determined by the input alone.

The list is cut into runs, left to right. A run starts with the longest stretch that is already
ascending (no item before its predecessor) or strictly descending, the latter reversed; while
a run is shorter than the minimum run length, the items that follow are put into it one by one,
each at the place a binary search finds (after any equal items, which keeps the sort stable).
A list of fewer than 64 items is a single run.

Runs wait on a stack. Each boundary between two neighbouring runs has a power: the first binary
digit at which the midpoints of the two runs, as fractions of the list, differ. When a run is
found, the runs on the stack whose boundary has a greater power than the new boundary are
merged first; at the end the stack is merged from the top, merging the lower pair first when
the run below it is shorter than the top run.

A merge skips the items of the left run that are not after the first item of the right run,
and the items of the right run that are not before the last item of the left run. The rest is
merged from the side of the shorter run, taking one item at a time, until one run has won
`minGallop` times in a row; it then gallops, finding by exponential and binary search how many
items of each run go next, until neither run wins 7 times in a row. The `minGallop` threshold
starts at 7, goes down by one (not below 1) on each galloping round and up by one on leaving
it, and carries over from one merge to the next.

Sorting in descending order reverses the list, sorts it, and reverses the result, so that
equal items keep their order there too.
-/

namespace Ingest

namespace Order

variable {α ε : Type}

/-- The length of the run continued from `prev` through `xs`, counting `n` so far: a
descending run goes on while each item is before its predecessor, an ascending one while it is
not. -/
def runFrom (lt : α → α → Except ε Bool) (descending : Bool) (prev : α) :
    List α → Nat → Except ε Nat
  | [], n => .ok n
  | x :: xs, n => do
    if (← lt x prev) == descending then runFrom lt descending x xs (n + 1) else .ok n

/-- The length of the run at the start of a list, and whether it is strictly descending. -/
def countRun (lt : α → α → Except ε Bool) : List α → Except ε (Nat × Bool)
  | [] => .ok (0, false)
  | [_] => .ok (1, false)
  | a :: b :: rest => do
    let descending ← lt b a
    let n ← runFrom lt descending b rest 2
    return (n, descending)

/-- Where `pivot` goes in the sorted `run` between places `lo` and `hi`: after every item it is
not before. -/
def insertionPoint (lt : α → α → Except ε Bool) (pivot : α) (run : Array α) (lo hi : Nat) :
    Except ε Nat :=
  if _h : lo < hi then
    let mid := lo + (hi - lo) / 2
    match run[mid]? with
    | some y => do
      if ← lt pivot y then insertionPoint lt pivot run lo mid
      else insertionPoint lt pivot run (mid + 1) hi
    | none => .ok lo
  else .ok lo
termination_by hi - lo

/-- The sorted `run` with each of `xs` put in at its place, in order. -/
def insertAll (lt : α → α → Except ε Bool) (run : Array α) :
    List α → Except ε (Array α)
  | [] => .ok run
  | x :: xs => do
    let k ← insertionPoint lt x run 0 run.size
    insertAll lt ((run.toList.take k ++ x :: run.toList.drop k).toArray) xs

/-- The minimum run length for `n` items, `r` recording whether a bit was shifted out: `n`
halved until below 64, plus one if any bit shifted out was set. -/
def minRunFrom (n r : Nat) : Nat :=
  if n < 64 then n + r else minRunFrom (n / 2) (if n % 2 = 1 then 1 else r)
termination_by n
decreasing_by omega

/-- The minimum run length for a list of `n` items: `n` itself below 64, else a number from
32 to 64 that splits `n` into nearly equal powers of two. -/
def minRun (n : Nat) : Nat := minRunFrom n 0

/-- Whether the item at `i` of `a` is before `key`; false past the end. -/
def itemBefore (lt : α → α → Except ε Bool) (a : Array α) (i : Nat) (key : α) : Except ε Bool :=
  match a[i]? with
  | some x => lt x key
  | none => .ok false

/-- Whether `key` is before the item at `i` of `a`; false past the end. -/
def keyBefore (lt : α → α → Except ε Bool) (key : α) (a : Array α) (i : Nat) : Except ε Bool :=
  match a[i]? with
  | some x => lt key x
  | none => .ok false

/-- The offsets an exponential search reaches: while `ofs < maxofs` and `step ofs` holds,
`lastofs` moves to `ofs` and `ofs` to `2 * ofs + 1`; `fuel` bounds the steps. -/
def gallopOffsets (step : Nat → Except ε Bool) (maxofs : Nat) :
    Nat → Nat → Nat → Except ε (Nat × Nat)
  | 0, lastofs, ofs => .ok (lastofs, ofs)
  | fuel + 1, lastofs, ofs =>
    if ofs < maxofs then do
      if ← step ofs then gallopOffsets step maxofs fuel ofs (2 * ofs + 1)
      else .ok (lastofs, ofs)
    else .ok (lastofs, ofs)

/-- The first place in `[lo, hi)` where `goesRight` fails, by binary search, assuming it holds
before that place and fails after. -/
def boundary (goesRight : Nat → Except ε Bool) (lo hi : Nat) : Except ε Nat :=
  if _h : lo < hi then do
    let m := lo + (hi - lo) / 2
    if ← goesRight m then boundary goesRight (m + 1) hi else boundary goesRight lo m
  else .ok lo
termination_by hi - lo

/-- Where `key` goes in the sorted `a`, before any equal items, searched from `hint` outwards. -/
def gallopLeft (lt : α → α → Except ε Bool) (key : α) (a : Array α) (hint : Nat) :
    Except ε Nat := do
  let fuel := a.size + 1
  let goesRight := fun m => itemBefore lt a m key
  if ← itemBefore lt a hint key then
    let maxofs := a.size - hint
    let (lastofs, ofs) ← gallopOffsets (fun o => itemBefore lt a (hint + o) key) maxofs fuel 0 1
    boundary goesRight (lastofs + hint + 1) (min ofs maxofs + hint)
  else
    let maxofs := hint + 1
    let (lastofs, ofs) ←
      gallopOffsets (fun o => do return !(← itemBefore lt a (hint - o) key)) maxofs fuel 0 1
    boundary goesRight (hint + 1 - min ofs maxofs) (hint - lastofs)

/-- Where `key` goes in the sorted `a`, after any equal items, searched from `hint` outwards. -/
def gallopRight (lt : α → α → Except ε Bool) (key : α) (a : Array α) (hint : Nat) :
    Except ε Nat := do
  let fuel := a.size + 1
  let goesRight := fun m => do return !(← keyBefore lt key a m)
  if ← keyBefore lt key a hint then
    let maxofs := hint + 1
    let (lastofs, ofs) ← gallopOffsets (fun o => keyBefore lt key a (hint - o)) maxofs fuel 0 1
    boundary goesRight (hint + 1 - min ofs maxofs) (hint - lastofs)
  else
    let maxofs := a.size - hint
    let (lastofs, ofs) ←
      gallopOffsets (fun o => do return !(← keyBefore lt key a (hint + o))) maxofs fuel 0 1
    boundary goesRight (lastofs + hint + 1) (min ofs maxofs + hint)

/-- The threshold of wins in a row that starts galloping, at the start of a sort. -/
def initialMinGallop : Nat := 7

/-- The wins in a row that keep a merge galloping. -/
def keepGalloping : Nat := 7

/-- The items `a[i]`, ..., `a[i + k - 1]`. -/
def slice (a : Array α) (i k : Nat) : Array α := a.extract i (i + k)

mutual
/-- A merge from the left, one item at a time: `a` from `i` and `b` from `j` remain, `out` is
merged so far; `acount` and `bcount` count the wins in a row. The result and the threshold. -/
def lowLinear (lt : α → α → Except ε Bool) (a b : Array α) :
    Nat → Nat → Nat → Array α → Nat → Nat → Nat → Except ε (Array α × Nat)
  | 0, i, j, out, _, _, mg => .ok (out ++ a.extract i a.size ++ b.extract j b.size, mg)
  | fuel + 1, i, j, out, acount, bcount, mg =>
    match b[j]?, a[i]? with
    | some y, some x => do
      if ← lt y x then
        let out := out.push y
        if j + 1 == b.size then .ok (out ++ a.extract i a.size, mg)
        else if bcount + 1 ≥ mg then lowGallop lt a b fuel i (j + 1) out (mg + 1)
        else lowLinear lt a b fuel i (j + 1) out 0 (bcount + 1) mg
      else
        let out := out.push x
        if a.size - (i + 1) == 1 then lowCopy a b (i + 1) j out mg
        else if acount + 1 ≥ mg then lowGallop lt a b fuel (i + 1) j out (mg + 1)
        else lowLinear lt a b fuel (i + 1) j out (acount + 1) 0 mg
    | _, _ => .ok (out ++ a.extract i a.size ++ b.extract j b.size, mg)

/-- A merge from the left, galloping: each round takes the items of `a` not after the next
item of `b`, that item, the items of `b` before the next item of `a`, and that item. -/
def lowGallop (lt : α → α → Except ε Bool) (a b : Array α) :
    Nat → Nat → Nat → Array α → Nat → Except ε (Array α × Nat)
  | 0, i, j, out, mg => .ok (out ++ a.extract i a.size ++ b.extract j b.size, mg)
  | fuel + 1, i, j, out, mg =>
    let mg := if mg > 1 then mg - 1 else mg
    match b[j]? with
    | none => .ok (out ++ a.extract i a.size, mg)
    | some y => do
      let k ← gallopRight lt y (a.extract i a.size) 0
      let out := out ++ slice a i k
      let i := i + k
      let na := a.size - i
      if k > 0 && na == 1 then lowCopy a b i j out mg
      else if k > 0 && na == 0 then .ok (out ++ b.extract j b.size, mg)
      else
        let out := out.push y
        let j := j + 1
        if j == b.size then .ok (out ++ a.extract i a.size, mg)
        else match a[i]? with
          | none => .ok (out ++ b.extract j b.size, mg)
          | some x => do
            let k' ← gallopLeft lt x (b.extract j b.size) 0
            let out := out ++ slice b j k'
            let j := j + k'
            if k' > 0 && j == b.size then .ok (out ++ a.extract i a.size, mg)
            else
              let out := out.push x
              let i := i + 1
              if a.size - i == 1 then lowCopy a b i j out mg
              else if k ≥ keepGalloping || k' ≥ keepGalloping then
                lowGallop lt a b fuel i j out mg
              else lowLinear lt a b fuel i j out 0 0 (mg + 1)

/-- The end of a merge from the left when one item of `a` remains: it goes after the rest of
`b`. -/
def lowCopy (a b : Array α) (i j : Nat) (out : Array α) (mg : Nat) : Except ε (Array α × Nat) :=
  .ok (out ++ b.extract j b.size ++ a.extract i a.size, mg)
end

/-- Two sorted runs merged from the left, `a` not longer than `b`, both non-empty, the first
item of `b` known to go first. -/
def mergeLow (lt : α → α → Except ε Bool) (a b : Array α) (mg : Nat) :
    Except ε (Array α × Nat) :=
  match b[0]? with
  | none => .ok (a, mg)
  | some y =>
    let out := #[y]
    if b.size == 1 then .ok (out ++ a, mg)
    else if a.size == 1 then lowCopy a b 0 1 out mg
    else lowLinear lt a b (a.size + b.size + 1) 0 1 out 0 0 mg

mutual
/-- A merge from the right, one item at a time: `a` below `na` and `b` below `nb` remain,
`right` holds the items placed so far from the right end, last placed last. -/
def highLinear (lt : α → α → Except ε Bool) (a b : Array α) :
    Nat → Nat → Nat → Array α → Nat → Nat → Nat → Except ε (Array α × Nat)
  | 0, na, nb, right, _, _, mg => .ok (slice a 0 na ++ slice b 0 nb ++ right.reverse, mg)
  | fuel + 1, na, nb, right, acount, bcount, mg =>
    match b[nb - 1]?, a[na - 1]? with
    | some y, some x => do
      if ← lt y x then
        let right := right.push x
        let na := na - 1
        if na == 0 then .ok (slice b 0 nb ++ right.reverse, mg)
        else if acount + 1 ≥ mg then highGallop lt a b fuel na nb right (mg + 1)
        else highLinear lt a b fuel na nb right (acount + 1) 0 mg
      else
        let right := right.push y
        let nb := nb - 1
        if nb == 1 then highCopy a b na right mg
        else if bcount + 1 ≥ mg then highGallop lt a b fuel na nb right (mg + 1)
        else highLinear lt a b fuel na nb right 0 (bcount + 1) mg
    | _, _ => .ok (slice a 0 na ++ slice b 0 nb ++ right.reverse, mg)

/-- A merge from the right, galloping: each round places the items of `a` after the last item
of `b`, that item, the items of `b` not before the last item of `a`, and that item. -/
def highGallop (lt : α → α → Except ε Bool) (a b : Array α) :
    Nat → Nat → Nat → Array α → Nat → Except ε (Array α × Nat)
  | 0, na, nb, right, mg => .ok (slice a 0 na ++ slice b 0 nb ++ right.reverse, mg)
  | fuel + 1, na, nb, right, mg =>
    let mg := if mg > 1 then mg - 1 else mg
    match b[nb - 1]? with
    | none => .ok (slice a 0 na ++ right.reverse, mg)
    | some y => do
      let k := na - (← gallopRight lt y (slice a 0 na) (na - 1))
      let right := right ++ (slice a (na - k) k).reverse
      let na := na - k
      if k > 0 && na == 0 then .ok (slice b 0 nb ++ right.reverse, mg)
      else
        let right := right.push y
        let nb := nb - 1
        if nb == 1 then highCopy a b na right mg
        else match a[na - 1]? with
          | none => .ok (slice b 0 nb ++ right.reverse, mg)
          | some x => do
            let k' := nb - (← gallopLeft lt x (slice b 0 nb) (nb - 1))
            let right := right ++ (slice b (nb - k') k').reverse
            let nb := nb - k'
            if k' > 0 && nb == 1 then highCopy a b na right mg
            else if k' > 0 && nb == 0 then .ok (slice a 0 na ++ right.reverse, mg)
            else
              let right := right.push x
              let na := na - 1
              if na == 0 then .ok (slice b 0 nb ++ right.reverse, mg)
              else if k ≥ keepGalloping || k' ≥ keepGalloping then
                highGallop lt a b fuel na nb right mg
              else highLinear lt a b fuel na nb right 0 0 (mg + 1)

/-- The end of a merge from the right when one item of `b` remains: it goes before the rest of
`a`. -/
def highCopy (a b : Array α) (na : Nat) (right : Array α) (mg : Nat) :
    Except ε (Array α × Nat) :=
  .ok (slice b 0 1 ++ slice a 0 na ++ right.reverse, mg)
end

/-- Two sorted runs merged from the right, `b` shorter than `a`, both non-empty, the last item
of `a` known to go last. -/
def mergeHigh (lt : α → α → Except ε Bool) (a b : Array α) (mg : Nat) :
    Except ε (Array α × Nat) :=
  match a[a.size - 1]? with
  | none => .ok (b, mg)
  | some x =>
    let right := #[x]
    let na := a.size - 1
    if na == 0 then .ok (b ++ right, mg)
    else if b.size == 1 then highCopy a b na right mg
    else highLinear lt a b (a.size + b.size + 1) na b.size right 0 0 mg

/-- Two neighbouring sorted runs merged, with the threshold before and after. -/
def mergeRuns (lt : α → α → Except ε Bool) (a b : Array α) (mg : Nat) :
    Except ε (Array α × Nat) :=
  match b[0]? with
  | none => .ok (a, mg)
  | some first => do
    let k ← gallopRight lt first a 0
    let rest := a.extract k a.size
    match rest[rest.size - 1]? with
    | none => .ok (a ++ b, mg)
    | some last =>
      let nb ← gallopLeft lt last b (b.size - 1)
      if nb == 0 then .ok (a ++ b, mg)
      else
        let (merged, mg) ← if rest.size ≤ nb then mergeLow lt rest (slice b 0 nb) mg
          else mergeHigh lt rest (slice b 0 nb) mg
        .ok (slice a 0 k ++ merged ++ b.extract nb b.size, mg)

/-- The power of the boundary between a run of `n1` items starting at `s1` and the run of `n2`
items after it, in a list of `n` items: the first binary digit at which the midpoints of the
two runs, as fractions of `n`, differ. `fuel` bounds the digits. -/
def powerFrom (n : Nat) : Nat → Nat → Nat → Nat → Nat
  | 0, _, _, result => result
  | fuel + 1, a, b, result =>
    if a ≥ n then powerFrom n fuel (2 * (a - n)) (2 * (b - n)) (result + 1)
    else if b ≥ n then result + 1
    else powerFrom n fuel (2 * a) (2 * b) (result + 1)

/-- The power of the boundary between the run of `n1` items at `s1` and the `n2` items after it,
in a list of `n` items. -/
def power (s1 n1 n2 n : Nat) : Nat := powerFrom n (n + 1) (2 * s1 + n1) (2 * s1 + 2 * n1 + n2) 0

/-- A sorted run waiting to be merged: its items, where it starts in the list, and the power of
its boundary with the run after it. -/
structure Pending (α : Type) where
  items : Array α
  start : Nat
  power : Nat

/-- The stack with its runs `i` and `i + 1` merged. -/
def mergeAt (lt : α → α → Except ε Bool) (stack : Array (Pending α)) (i : Nat) (mg : Nat) :
    Except ε (Array (Pending α) × Nat) :=
  match stack[i]?, stack[i + 1]? with
  | some p, some q => do
    let (items, mg) ← mergeRuns lt p.items q.items mg
    return ((stack.set! i { p with items }).eraseIdx! (i + 1), mg)
  | _, _ => .ok (stack, mg)

/-- The stack with the runs above boundaries of a power greater than `pw` merged. -/
def collapseAbove (lt : α → α → Except ε Bool) (pw : Nat) :
    Nat → Array (Pending α) → Nat → Except ε (Array (Pending α) × Nat)
  | 0, stack, mg => .ok (stack, mg)
  | fuel + 1, stack, mg =>
    match stack[stack.size - 2]? with
    | some p =>
      if stack.size > 1 && p.power > pw then do
        let (stack, mg) ← mergeAt lt stack (stack.size - 2) mg
        collapseAbove lt pw fuel stack mg
      else .ok (stack, mg)
    | none => .ok (stack, mg)

/-- The stack merged down to one run: the top two runs, or the two below them when the run
below those is shorter than the top run. -/
def collapseAll (lt : α → α → Except ε Bool) :
    Nat → Array (Pending α) → Nat → Except ε (Array (Pending α) × Nat)
  | 0, stack, mg => .ok (stack, mg)
  | fuel + 1, stack, mg =>
    if stack.size > 1 then do
      let n := stack.size - 2
      let lower := match stack[n - 1]?, stack[n + 1]? with
        | some p, some q => n > 0 && p.items.size < q.items.size
        | _, _ => false
      let (stack, mg) ← mergeAt lt stack (if lower then n - 1 else n) mg
      collapseAll lt fuel stack mg
    else .ok (stack, mg)

/-- The next run of `xs` sorted, and how many items it took: the natural run, reversed if
descending, extended by binary insertion to the minimum length. -/
def nextRun (lt : α → α → Except ε Bool) (minimum : Nat) (xs : List α) :
    Except ε (Array α × Nat) := do
  let (n, descending) ← countRun lt xs
  let start := if descending then (xs.take n).reverse else xs.take n
  let force := max n (min minimum xs.length)
  let run ← insertAll lt start.toArray ((xs.drop n).take (force - n))
  return (run, force)

/-- Sorting the items `xs` left from place `start` of a list of `total` items: find the next run,
merge the waiting runs its boundary calls for, push it; at the end merge all. -/
def sortFrom (lt : α → α → Except ε Bool) (minimum total : Nat) :
    Nat → List α → Nat → Array (Pending α) → Nat → Except ε (Array α)
  | 0, _, _, stack, _ => .ok (stack.foldl (fun acc p => acc ++ p.items) #[])
  | fuel + 1, xs, start, stack, mg =>
    match xs with
    | [] => do
      let (stack, _) ← collapseAll lt (stack.size + 1) stack mg
      return stack.foldl (fun acc p => acc ++ p.items) #[]
    | _ => do
      let (run, n) ← nextRun lt minimum xs
      let (stack, mg) ← match stack[stack.size - 1]? with
        | some top => do
          let pw := power top.start top.items.size n total
          let (stack, mg) ← collapseAbove lt pw (stack.size + 1) stack mg
          pure (stack.modify (stack.size - 1) fun p => { p with power := pw }, mg)
        | none => pure (stack, mg)
      sortFrom lt minimum total fuel (xs.drop n) (start + n) (stack.push ⟨run, start, 0⟩) mg

/-- The list sorted stably in ascending order. -/
def runSort (lt : α → α → Except ε Bool) (xs : List α) : Except ε (List α) := do
  if xs.length < 2 then return xs
  let sorted ← sortFrom lt (minRun xs.length) xs.length (xs.length + 1) xs 0 #[] initialMinGallop
  return sorted.toList

/-- The list sorted stably, ascending or descending. -/
def sortBy (lt : α → α → Except ε Bool) (descending : Bool) (xs : List α) :
    Except ε (List α) :=
  if descending then (runSort lt xs.reverse).map List.reverse else runSort lt xs

end Order

end Ingest
