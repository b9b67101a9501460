import Mathlib.Data.List.Basic
import LiskMigrator.Library.Outcome

namespace LiskMigrator.Paging
open Std Outcome

section Range
variable {K E : Type} [Ord K] (key : E → K)

-- The rows of a table whose key lies between two bounds, both included.
def within (lower upper : K) (entries : List E) : List E :=
  entries.filter (fun e => (compare lower (key e)).isLE && (compare (key e) upper).isLE)

theorem mem_within : e ∈ within key lower upper entries ↔
    e ∈ entries ∧ (compare lower (key e)).isLE ∧ (compare (key e) upper).isLE := by
  simp [within]

theorem within_within [TransOrd K] (inside : (compare lower start).isLE) (entries : List E) :
    within key start upper (within key lower upper entries) = within key start upper entries := by
  simp only [within,List.filter_filter]
  apply List.filter_congr
  intro e _
  cases above : (compare start (key e)).isLE with
  | false => simp
  | true =>
    have reached : (compare lower (key e)).isLE = true := TransOrd.isLE_trans inside above
    simp [reached]

-- One page taken, the scan goes on from `next`: what it then sees is exactly
-- what the page left over, provided no key lies between the page and `next`.
theorem within_next [TransOrd K] {start upper next : K} {entries : List E} {limit : Nat} {last : E}
    (ascending : entries.Pairwise (fun a b => compare (key a) (key b) = .lt))
    (page : ((within key start upper entries).take limit).getLast? = some last)
    (forward : compare (key last) next = .lt)
    (gapless : ∀ later ∈ entries, compare (key last) (key later) = .lt → (compare next (key later)).isLE) :
    within key next upper entries = (within key start upper entries).drop limit := by
  obtain ⟨front,split⟩ := List.getLast?_eq_some_iff.mp page
  have member : last ∈ within key start upper entries :=
    List.mem_of_mem_take (split ▸ List.mem_append_right front (List.mem_singleton.mpr rfl))
  obtain ⟨_,above,_⟩ := (mem_within key).mp member
  have sorted : (within key start upper entries).Pairwise (fun a b => compare (key a) (key b) = .lt) :=
    ascending.sublist List.filter_sublist
  have narrowed : within key next upper entries =
      (within key start upper entries).filter (fun e => (compare next (key e)).isLE) := by
    simp only [within,List.filter_filter]
    apply List.filter_congr
    intro e _
    cases beyond : (compare next (key e)).isLE with
    | false => simp
    | true =>
      have less : compare (key last) (key e) = .lt := TransCmp.lt_of_lt_of_isLE forward beyond
      have reached : (compare start (key e)).isLE = true :=
        TransOrd.isLE_trans above (by simp [less])
      simp [reached]
  have pieces : within key start upper entries = (front ++ [last]) ++ (within key start upper entries).drop limit := by
    rw [← split,List.take_append_drop]
  rw [pieces] at sorted
  obtain ⟨ofPage,_,across⟩ := List.pairwise_append.mp sorted
  have passed : (front ++ [last]).filter (fun e => (compare next (key e)).isLE) = [] := by
    apply List.filter_eq_nil_iff.mpr
    intro e inPage beyond
    rcases List.mem_append.mp inPage with earlier | isLast
    · have less := (List.pairwise_append.mp ofPage).2.2 e earlier last (List.mem_singleton.mpr rfl)
      exact OrientedCmp.not_isLE_of_lt (TransCmp.lt_trans less forward) beyond
    · cases List.mem_singleton.mp isLast
      exact OrientedCmp.not_isLE_of_lt forward beyond
  have kept : ((within key start upper entries).drop limit).filter (fun e => (compare next (key e)).isLE) =
      (within key start upper entries).drop limit := by
    apply List.filter_eq_self.mpr
    intro e inRest
    have inTable : e ∈ entries := ((mem_within key).mp (List.mem_of_mem_drop inRest)).1
    exact gapless e inTable (across last (List.mem_append_right front (List.mem_singleton.mpr rfl)) e inRest)
  calc within key next upper entries
      = ((front ++ [last]) ++ (within key start upper entries).drop limit).filter
          (fun e => (compare next (key e)).isLE) := narrowed.trans (congrArg (List.filter _) pieces)
    _ = (within key start upper entries).drop limit := by rw [List.filter_append,passed,kept,List.nil_append]

end Range

section Scan
variable {K E σ ε : Type}

-- The paged loop: fetch one page, visit its rows, and start the next page
-- after the last of them. Only an empty page ends it; `rounds` bounds the pages.
def scan (fetch : K → Except ε (List E)) (visit : σ → E → Except ε σ) (after : E → Except ε K)
    (unfinished : ε) : Nat → K → σ → Except ε σ
  | 0,_,_ => .error unfinished
  | rounds+1,start,state => do
    let page ← fetch start
    let state ← page.foldlM visit state
    match page.getLast? with
    | none => return state
    | some last =>
      let start ← after last
      scan fetch visit after unfinished rounds start state

variable {fetch : K → Except ε (List E)} {visit : σ → E → Except ε σ} {after : E → Except ε K} {unfinished : ε}

theorem scan_stops (rounds : Nat) (state : σ) (empty : fetch start = .ok []) :
    scan fetch visit after unfinished (rounds+1) start state = .ok state := by
  simp [scan,empty,bind,Except.bind,pure,Except.pure]

theorem scan_continues (rounds : Nat) (state : σ) (fetched : fetch start = .ok page)
    (last : page.getLast? = some row) (onward : after row = .ok next) :
    scan fetch visit after unfinished (rounds+1) start state =
      page.foldlM visit state >>= scan fetch visit after unfinished rounds next := by
  rw [scan]
  simp only [fetched,last,onward,bind,Except.bind]

-- Over a table in ascending key order the pages add up to one full pass,
-- whatever the page size: no row is skipped at a page boundary or seen twice.
theorem scan_exact [Ord K] [TransOrd K] (key : E → K) {lower upper : K} {entries : List E} {limit : Nat}
    (positive : 0 < limit)
    (ascending : entries.Pairwise (fun a b => compare (key a) (key b) = .lt))
    (served : ∀ start, (compare lower start).isLE → fetch start = .ok ((within key start upper entries).take limit))
    (onward : ∀ e ∈ entries, ∃ next, after e = .ok next ∧ compare (key e) next = .lt ∧
      ∀ later ∈ entries, compare (key e) (key later) = .lt → (compare next (key later)).isLE)
    (rounds : Nat) (start : K) (state : σ) (inside : (compare lower start).isLE)
    (enough : (within key start upper entries).length < rounds) :
    scan fetch visit after unfinished rounds start state = (within key start upper entries).foldlM visit state := by
  induction rounds generalizing start state with
  | zero => simp at enough
  | succ rounds ih =>
    have fetched := served start inside
    cases last : ((within key start upper entries).take limit).getLast? with
    | none =>
      have empty : (within key start upper entries).take limit = [] := List.getLast?_eq_none_iff.mp last
      have nothing : within key start upper entries = [] := by
        rcases List.take_eq_nil_iff.mp empty with zero | nothing
        · omega
        · exact nothing
      rw [empty] at fetched
      rw [scan_stops rounds state fetched,nothing]
      rfl
    | some row =>
      have inPage : row ∈ (within key start upper entries).take limit := List.mem_of_getLast? last
      obtain ⟨inTable,above,_⟩ := (mem_within key).mp (List.mem_of_mem_take inPage)
      obtain ⟨next,moved,forward,gapless⟩ := onward row inTable
      have rest := within_next key ascending last forward gapless
      have reached : (compare lower next).isLE := by
        have later : (compare start next).isLE := TransOrd.isLE_trans above (by simp [forward])
        exact TransOrd.isLE_trans inside later
      have nonempty := List.length_pos_of_mem (List.mem_of_mem_take inPage)
      have shorter : (within key next upper entries).length < rounds := by
        rw [rest,List.length_drop]
        omega
      rw [scan_continues rounds state fetched last moved]
      conv => rhs; rw [← List.take_append_drop limit (within key start upper entries),List.foldlM_append,← rest]
      congr 1
      funext state
      exact ih next state reached shorter

-- The rows that a scan comes by, in the order of the visits.
def seen (fetch : K → Except ε (List E)) (after : E → Except ε K) (unfinished : ε)
    (rounds : Nat) (start : K) : Except ε (List E) :=
  scan fetch (fun rows row => .ok (rows ++ [row])) after unfinished rounds start []

theorem collect_rows (page rows : List E) :
    page.foldlM (fun rows row => (.ok (rows ++ [row]) : Except ε (List E))) rows = .ok (rows ++ page) := by
  induction page generalizing rows with
  | nil => simp [pure,Except.pure]
  | cons row rest ih => simp [bind,Except.bind,ih]

theorem scan_collected (collected : scan fetch (fun rows row => .ok (rows ++ [row])) after unfinished rounds start rows = .ok all) :
    ∃ visited, all = rows ++ visited ∧ ∀ (τ : Type) (visit : τ → E → Except ε τ) state,
      scan fetch visit after unfinished rounds start state = visited.foldlM visit state := by
  induction rounds generalizing start rows with
  | zero => simp [scan] at collected
  | succ rounds ih =>
    cases fetched : fetch start with
    | error e => simp [scan,fetched,bind,Except.bind] at collected
    | ok page =>
      cases last : page.getLast? with
      | none =>
        cases List.getLast?_eq_none_iff.mp last
        rw [scan_stops rounds rows fetched] at collected
        cases collected
        exact ⟨[],(List.append_nil _).symm,fun _ _ state => scan_stops rounds state fetched⟩
      | some row =>
        cases moved : after row with
        | error e => simp [scan,fetched,last,moved,bind,Except.bind,collect_rows] at collected
        | ok next =>
          rw [scan_continues rounds rows fetched last moved,collect_rows] at collected
          obtain ⟨visited,rfl,folds⟩ := ih collected
          refine ⟨page ++ visited,List.append_assoc _ _ _,?_⟩
          intro τ visit state
          rw [scan_continues rounds state fetched last moved,List.foldlM_append]
          congr 1
          funext middle
          exact folds τ visit middle

-- Whatever a scan does with its rows, it does it to the rows it comes by.
theorem scan_seen (visited : seen fetch after unfinished rounds start = .ok rows) (visit : σ → E → Except ε σ) (state : σ) :
    scan fetch visit after unfinished rounds start state = rows.foldlM visit state := by
  obtain ⟨all,same,folds⟩ := scan_collected visited
  rw [same,List.nil_append]
  exact folds σ visit state

end Scan
end LiskMigrator.Paging
