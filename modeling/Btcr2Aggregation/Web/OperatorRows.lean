import Btcr2Aggregation.Service.Dismissal

/-!
# The rows of the operator console

The console joins the operator's own cohorts with the rows of the monitor.  The
two keep cohorts on different schedules, so the join is a union.  Each row has a
chip, and the chip decides the one group it is shown in.
-/

namespace Btcr2Aggregation

open Monitor

section Grouping

/-! ## Chips, groups and the union -/

/-- The chips of the monitor, and the two states only the operator list has. -/
inductive ChipKey where
  | draft
  | expired
  | monitored (chip : CohortChip)
  deriving DecidableEq, Repr

inductive GroupKey where
  | attention
  | active
  | drafts
  | ended
  deriving DecidableEq, Repr

structure RenderRow where
  id : CohortId
  chip : ChipKey
  cohort : Option OperatorCohortDTO
  row : Option CohortSummary
  deriving DecidableEq, Repr

/-- A terminal fate wins over whatever the fold last saw. -/
def chipForCohort (cohort : OperatorCohortDTO) (row : Option CohortSummary) :
    ChipKey :=
  match cohort.state with
  | .draft => .draft
  | .expired => .expired
  | .canceled => .monitored (.ended .canceled)
  | .advertised =>
      match row with
      | some row => .monitored row.chip
      | none => .monitored .filling

def groupForChip : ChipKey → GroupKey
  | .monitored .needsFunding => .attention
  | .monitored (.ended .fallback) => .attention
  | .monitored (.ended .coSignedFallback) => .attention
  | .monitored (.ended .failed) => .attention
  | .monitored .filling => .active
  | .monitored .coSigning => .active
  | .draft => .drafts
  | _ => .ended

/-- The four lists of the console. -/
structure GroupedRows where
  attention : List RenderRow
  active : List RenderRow
  drafts : List RenderRow
  ended : List RenderRow
  deriving DecidableEq, Repr

namespace GroupedRows

def empty : GroupedRows := ⟨[], [], [], []⟩

def get (grouped : GroupedRows) : GroupKey → List RenderRow
  | .attention => grouped.attention
  | .active => grouped.active
  | .drafts => grouped.drafts
  | .ended => grouped.ended

def push (grouped : GroupedRows) (row : RenderRow) : GroupedRows :=
  match groupForChip row.chip with
  | .attention => { grouped with attention := grouped.attention ++ [row] }
  | .active => { grouped with active := grouped.active ++ [row] }
  | .drafts => { grouped with drafts := grouped.drafts ++ [row] }
  | .ended => { grouped with ended := grouped.ended ++ [row] }

/-- Everything on the page, in render order. -/
def shown (grouped : GroupedRows) : List RenderRow :=
  grouped.attention ++ grouped.active ++ grouped.drafts ++ grouped.ended

end GroupedRows

/-- `new Map(rows.map((r) => [r.cohortId, r]))`: of two rows with one id the later
stays. -/
def rowById (rows : List CohortSummary) (id : CohortId) : Option CohortSummary :=
  (rows.filter (·.cohortId = id)).getLast?

/-- The row of one of the operator's cohorts. -/
def joinedRow (rows : List CohortSummary) (cohort : OperatorCohortDTO) : RenderRow :=
  let row := rowById rows cohort.draftId
  { id := cohort.draftId
    chip := chipForCohort cohort row
    cohort := some cohort
    row }

/-- The row of a cohort the operator list no longer holds. -/
def monitoringRow (row : CohortSummary) : RenderRow where
  id := row.cohortId
  chip := .monitored row.chip
  cohort := none
  row := some row

def groupRenderRows
    (cohorts : List OperatorCohortDTO) (rows : List CohortSummary) : GroupedRows :=
  let cohortIds := cohorts.map OperatorCohortDTO.draftId
  let grouped :=
    cohorts.foldl (fun grouped cohort => grouped.push (joinedRow rows cohort)) .empty
  rows.foldl
    (fun grouped row =>
      if row.cohortId ∈ cohortIds then grouped
      else grouped.push (monitoringRow row))
    grouped

end Grouping

section Union

/-! ## The union, group by group -/

/-- The union before it is grouped. -/
def renderRows
    (cohorts : List OperatorCohortDTO) (rows : List CohortSummary) : List RenderRow :=
  cohorts.map (joinedRow rows) ++
    (rows.filter fun row =>
      row.cohortId ∉ cohorts.map OperatorCohortDTO.draftId).map monitoringRow

namespace GroupedRows

theorem get_push (grouped : GroupedRows) (row : RenderRow) (group : GroupKey) :
    (grouped.push row).get group =
      grouped.get group ++ [row].filter (fun row => groupForChip row.chip = group) := by
  unfold push
  cases placed : groupForChip row.chip <;> cases group <;> simp [get, placed]

theorem get_foldl_push (rows : List RenderRow) (group : GroupKey) :
    ∀ grouped : GroupedRows,
      (rows.foldl push grouped).get group =
        grouped.get group ++
          rows.filter (fun row => groupForChip row.chip = group) := by
  induction rows with
  | nil => simp
  | cons row rows inductionHypothesis =>
      intro grouped
      rw [List.foldl_cons, inductionHypothesis, get_push, List.append_assoc,
        ← List.filter_append, List.singleton_append]

theorem shown_push (grouped : GroupedRows) (row : RenderRow) :
    (grouped.push row).shown.Perm (row :: grouped.shown) := by
  have counted (other : RenderRow) :
      (grouped.push row).shown.count other =
        (row :: grouped.shown).count other := by
    unfold push
    cases groupForChip row.chip with
    | attention =>
        simp only [shown, List.count_append, List.count_cons, List.count_nil]
        omega
    | active =>
        simp only [shown, List.count_append, List.count_cons, List.count_nil]
        omega
    | drafts =>
        simp only [shown, List.count_append, List.count_cons, List.count_nil]
        omega
    | ended =>
        simp only [shown, List.count_append, List.count_cons, List.count_nil]
        omega
  exact List.perm_iff_count.mpr counted

theorem shown_foldl_push (rows : List RenderRow) :
    ∀ grouped : GroupedRows,
      (rows.foldl push grouped).shown.Perm (rows ++ grouped.shown) := by
  induction rows with
  | nil =>
      intro grouped
      exact List.Perm.refl _
  | cons row rows inductionHypothesis =>
      intro grouped
      calc
        ((row :: rows).foldl push grouped).shown
        _ = (rows.foldl push (grouped.push row)).shown := rfl
        List.Perm _ (rows ++ (grouped.push row).shown) := inductionHypothesis _
        List.Perm _ (rows ++ row :: grouped.shown) :=
          (grouped.shown_push row).append_left rows
        List.Perm _ (row :: rows ++ grouped.shown) := List.perm_middle

end GroupedRows

theorem groupRenderRows_eq_foldl
    (cohorts : List OperatorCohortDTO) (rows : List CohortSummary) :
    groupRenderRows cohorts rows =
      (renderRows cohorts rows).foldl GroupedRows.push .empty := by
  rw [groupRenderRows, renderRows, List.foldl_append, List.foldl_map,
    List.foldl_map, List.foldl_filter]
  simp only [decide_not, Bool.not_eq_eq_eq_not, Bool.not_true,
    decide_eq_false_iff_not, ite_not]

/-- Each group is the union's rows of that group, in their order. -/
theorem get_groupRenderRows
    (cohorts : List OperatorCohortDTO) (rows : List CohortSummary)
    (group : GroupKey) :
    (groupRenderRows cohorts rows).get group =
      (renderRows cohorts rows).filter fun row => groupForChip row.chip = group := by
  rw [groupRenderRows_eq_foldl, GroupedRows.get_foldl_push]
  cases group <;> rfl

/-- The page shows the rows of the union, each once. -/
theorem shown_perm
    (cohorts : List OperatorCohortDTO) (rows : List CohortSummary) :
    (groupRenderRows cohorts rows).shown.Perm (renderRows cohorts rows) := by
  rw [groupRenderRows_eq_foldl]
  have shown := GroupedRows.shown_foldl_push (renderRows cohorts rows) .empty
  rwa [show GroupedRows.empty.shown = [] from rfl, List.append_nil] at shown

/-- The ids of the union: the operator's, then those only the monitor has. -/
theorem ids_renderRows
    (cohorts : List OperatorCohortDTO) (rows : List CohortSummary) :
    (renderRows cohorts rows).map RenderRow.id =
      cohorts.map OperatorCohortDTO.draftId ++
        (rows.map CohortSummary.cohortId).filter fun id =>
          id ∉ cohorts.map OperatorCohortDTO.draftId := by
  rw [renderRows, List.map_append, List.map_map, List.map_map, List.filter_map]
  rfl

theorem nodup_renderRows
    {cohorts : List OperatorCohortDTO} {rows : List CohortSummary}
    (cohortsOnce : (cohorts.map OperatorCohortDTO.draftId).Nodup)
    (rowsOnce : (rows.map CohortSummary.cohortId).Nodup) :
    ((renderRows cohorts rows).map RenderRow.id).Nodup := by
  rw [ids_renderRows, List.nodup_append']
  refine ⟨cohortsOnce, rowsOnce.filter _, ?_⟩
  intro id held only
  exact of_decide_eq_true (List.mem_filter.mp only).2 held

theorem mem_ids_renderRows
    {cohorts : List OperatorCohortDTO} {rows : List CohortSummary} {id : CohortId} :
    id ∈ (renderRows cohorts rows).map RenderRow.id ↔
      id ∈ cohorts.map OperatorCohortDTO.draftId ∨
        id ∈ rows.map CohortSummary.cohortId := by
  rw [ids_renderRows, List.mem_append, List.mem_filter, decide_eq_true_iff]
  constructor
  · rintro (held | ⟨held, -⟩)
    · exact Or.inl held
    · exact Or.inr held
  · intro held
    by_cases listed : id ∈ cohorts.map OperatorCohortDTO.draftId
    · exact Or.inl listed
    · exact Or.inr ⟨held.resolve_left listed, listed⟩

/-- With one row for each id, a row is found by its id. -/
theorem rowById_of_mem
    {rows : List CohortSummary} (once : (rows.map CohortSummary.cohortId).Nodup)
    {row : CohortSummary} (member : row ∈ rows) :
    rowById rows row.cohortId = some row := by
  have alone : rows.filter (fun other => other.cohortId = row.cohortId) = [row] := by
    induction rows with
    | nil => cases member
    | cons first rows inductionHypothesis =>
        rw [List.map_cons, List.nodup_cons] at once
        rcases List.mem_cons.mp member with rfl | later
        · have others :
              rows.filter (fun other => other.cohortId = row.cohortId) = [] := by
            rw [List.filter_eq_nil_iff]
            intro other held same
            refine once.1 ?_
            rw [← of_decide_eq_true same]
            exact List.mem_map_of_mem held
          rw [List.filter_cons_of_pos (by simp), others]
        · have differs : first.cohortId ≠ row.cohortId := by
            intro same
            refine once.1 ?_
            rw [same]
            exact List.mem_map_of_mem later
          rw [List.filter_cons_of_neg (by simpa using differs)]
          exact inductionHypothesis once.2 later
  rw [rowById, alone]
  rfl

end Union

end Btcr2Aggregation
