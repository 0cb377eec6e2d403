import HtmlReflow.CommandLine.FileTree

namespace HtmlReflow.CommandLine.FileTree

variable {t t' : FileTree} {place other : Place} {path : Text} {bytes : Bytes} {fault : Fault}

/-- A path leads to a place, whether something is there or not. -/
def Leads (t : FileTree) (path : Text) (place : Place) : Prop :=
  t.follow (t.origin path) (names path) = .ok place

theorem lookup_put (nodes : List (Place × Node)) :
    ((place, Node.file bytes) :: nodes.filter (fun n => n.1 != place)).lookup other =
      if other = place then some (.file bytes) else nodes.lookup other := by
  by_cases same : other = place
  · simp [same]
  · rw [List.lookup_cons, beq_eq_false_iff_ne.mpr same, if_neg same]
    induction nodes with
    | nil => rfl
    | cons n nodes ih =>
      obtain ⟨at₀, node⟩ := n
      by_cases here : at₀ = place
      · have other' : other ≠ at₀ := fun e => same (e.trans here)
        rw [List.filter_cons_of_neg (by simp [here]), List.lookup_cons, beq_eq_false_iff_ne.mpr other']
        exact ih
      · rw [List.filter_cons_of_pos (by simp [here]), List.lookup_cons, List.lookup_cons]
        cases other == at₀ with
        | true => rfl
        | false => exact ih

theorem node?_put (t : FileTree) (place : Place) (bytes : Bytes) (free : place ≠ []) (other : Place) :
    (t.put place bytes).node? other = if other = place then some (.file bytes) else t.node? other := by
  unfold node?
  by_cases root : other = []
  · have apart : ¬ other = place := fun e => free (e ▸ root)
    simp only [root, if_true]
    rw [if_neg (root ▸ apart)]
  · rw [if_neg root, if_neg root]
    exact lookup_put t.nodes

/-- Where no directory is, a file can be put without a change to the ways through the tree. -/
theorem follow_put (solid : t.node? place ≠ some .directory) (bytes : Bytes) (start goal : Place)
    (way : List Text) :
    (t.put place bytes).follow start way = .ok goal ↔ t.follow start way = .ok goal := by
  have free : place ≠ [] := fun root => solid (by rw [root]; rfl)
  induction way generalizing start with
  | nil => rfl
  | cons name way ih =>
    rw [follow, follow, node?_put t place bytes free]
    by_cases here : start = place
    · rw [if_pos here, here]
      -- Neither tree has a directory here, so no way leads on.
      cases there : t.node? place with
      | none => simp
      | some node =>
        cases node with
        | file _ => simp
        | directory => exact absurd there solid
    · rw [if_neg here]
      cases t.node? start with
      | none => simp
      | some node =>
        cases node with
        | file _ => simp
        | directory => exact ih (step start name)

theorem leads_put (solid : t.node? place ≠ some .directory) (bytes : Bytes) (path : Text)
    (goal : Place) : (t.put place bytes).Leads path goal ↔ t.Leads path goal := by
  have same : (t.put place bytes).origin path = t.origin path := by
    unfold origin
    split <;> rfl
  unfold Leads
  rw [same]
  exact follow_put solid bytes _ goal _

theorem read_eq_ok_iff :
    t.read path = .ok bytes ↔ ∃ place, t.Leads path place ∧ t.node? place = some (.file bytes) := by
  unfold read Leads
  cases t.follow (t.origin path) (names path) with
  | error fault => simp
  | ok place =>
    cases there : t.node? place with
    | none => simp [there]
    | some node => cases node <;> simp [there]

theorem withoutEndSlashes_eq_self (noSlash : path.getLast? ≠ some '/') :
    withoutEndSlashes path = path := by
  rcases List.eq_nil_or_concat path with rfl | ⟨front, last, rfl⟩
  · rfl
  · simp only [List.concat_eq_append, List.getLast?_append, List.getLast?_singleton] at noSlash
    have other : last ≠ '/' := by simpa using noSlash
    simp [withoutEndSlashes, other]

theorem write_eq_ok_iff : t.write path bytes = .ok t' ↔ path.getLast? ≠ some '/' ∧
    ∃ place, t.Leads path place ∧ t.node? place ≠ some .directory ∧ t' = t.put place bytes := by
  unfold write Leads
  by_cases slash : path.getLast? = some '/'
  · cases t.follow (t.origin path) (names (withoutEndSlashes path)) with
    | error fault => simp [slash]
    | ok place => simp [slash]
  · rw [withoutEndSlashes_eq_self slash]
    cases t.follow (t.origin path) (names path) with
    | error fault => simp
    | ok place =>
      by_cases directory : t.node? place = some .directory
      · simp [directory]
      · simp only [slash, directory, or_self, if_false, Except.ok.injEq, exists_eq_left', ne_eq,
          not_false_eq_true, true_and]
        exact eq_comm

/-- The second tree is the first with `bytes` in the file at `place`, under every name of that file, and
    with everything else as it was. -/
structure Stores (t t' : FileTree) (place : Place) (bytes : Bytes) : Prop where
  here : t'.here = t.here
  nodes : ∀ other, t'.node? other = if other = place then some (.file bytes) else t.node? other
  named : ∀ path, t.Leads path place → t'.read path = .ok bytes
  others : ∀ path, ¬ t.Leads path place → ∀ found, t'.read path = .ok found ↔ t.read path = .ok found

theorem stores_put (solid : t.node? place ≠ some .directory) (bytes : Bytes) :
    t.Stores (t.put place bytes) place bytes := by
  have free : place ≠ [] := fun root => solid (by rw [root]; rfl)
  refine ⟨rfl, node?_put t place bytes free, fun path leads => ?_, fun path astray found => ?_⟩
  · rw [read_eq_ok_iff]
    exact ⟨place, (leads_put solid bytes path place).mpr leads, by rw [node?_put t place bytes free, if_pos rfl]⟩
  · rw [read_eq_ok_iff, read_eq_ok_iff]
    refine exists_congr fun other => ?_
    rw [leads_put solid]
    refine and_congr_right fun leads => ?_
    have apart : other ≠ place := fun same => astray (same ▸ leads)
    rw [node?_put t place bytes free, if_neg apart]

theorem exists_stores_of_write (written : t.write path bytes = .ok t') :
    ∃ place, t.Leads path place ∧ t.Stores t' place bytes := by
  obtain ⟨_, place, leads, solid, rfl⟩ := write_eq_ok_iff.mp written
  exact ⟨place, leads, stores_put solid bytes⟩

end HtmlReflow.CommandLine.FileTree
