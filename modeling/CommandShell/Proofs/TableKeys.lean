import CommandShell.Table
import Mathlib.Data.List.Induction
import Mathlib.Data.List.Nodup

/-! The names of a table. A table that is laid over another one keeps the names of both. -/

namespace CommandShell.Proofs.TableKeys
open Table

variable {α : Type} {table above : Table α} {name : Text}

theorem keys_cons (pair : Text × α) (rest : Table α) : keys (pair :: rest) = pair.1 :: rest.keys := rfl

theorem keys_append (front rest : Table α) : keys (front ++ rest) = front.keys ++ rest.keys :=
  List.map_append

theorem mem_keys_iff : name ∈ table.keys ↔ table.get? name ≠ none := by
  induction table with
  | nil => simp [keys, get?]
  | cons pair rest ih =>
    rw [get?, keys_cons, List.mem_cons]
    split
    next same => exact iff_of_true (.inl same.symm) (Option.some_ne_none _)
    next other => rw [← ih, or_iff_right (Ne.symm other)]

theorem mem_of_get? {value : α} (found : table.get? name = some value) : (name, value) ∈ table := by
  induction table with
  | nil => cases found
  | cons pair rest ih =>
    obtain ⟨key, first⟩ := pair
    rw [Table.get?] at found
    split at found
    next same =>
      obtain rfl := Option.some.inj found
      exact same ▸ List.mem_cons_self
    next => exact List.mem_cons_of_mem _ (ih found)

theorem set_absent (absent : name ∉ table.keys) (value : α) : table.set name value = table ++ [(name, value)] := by
  induction table with
  | nil => rfl
  | cons pair rest ih =>
    rw [keys_cons, List.mem_cons, not_or] at absent
    rw [Table.set, if_neg (Ne.symm absent.1), ih absent.2]
    rfl

theorem keys_set (present : name ∈ table.keys) (value : α) : (table.set name value).keys = table.keys := by
  induction table with
  | nil => cases present
  | cons pair rest ih =>
    rw [Table.set]
    split
    next => rfl
    next other =>
      obtain same | later := List.mem_cons.mp present
      · exact absurd same.symm other
      · exact congrArg (pair.1 :: ·) (ih later)

theorem nodup_set (distinct : table.keys.Nodup) (name : Text) (value : α) :
    (table.set name value).keys.Nodup := by
  by_cases present : name ∈ table.keys
  · rwa [keys_set present]
  · rw [set_absent present, keys_append]
    exact List.concat_eq_append ▸ distinct.concat present

theorem erase_absent (absent : name ∉ table.keys) : table.erase name = table := by
  refine List.filter_eq_self.mpr fun pair inside => ?_
  have other : pair.1 ≠ name := fun same => absent (same ▸ List.mem_map_of_mem inside)
  simpa using other

theorem nodup_erase (distinct : table.keys.Nodup) (name : Text) : (table.erase name).keys.Nodup :=
  distinct.sublist (List.filter_sublist.map _)

theorem overlay_cons (table : Table α) (pair : Text × α) (rest : Table α) :
    table.overlay (pair :: rest) = (table.set pair.1 pair.2).overlay rest := rfl

theorem nodup_overlay (distinct : table.keys.Nodup) (above : Table α) : (table.overlay above).keys.Nodup := by
  induction above generalizing table with
  | nil => exact distinct
  | cons pair rest ih => exact ih (nodup_set distinct pair.1 pair.2)

theorem nodup_ofPairs (pairs : List (Text × α)) : (ofPairs pairs).keys.Nodup :=
  nodup_overlay (show List.Nodup (keys ([] : Table α)) from List.nodup_nil) pairs

private theorem mem_overlay (inside : name ∈ table.keys) (above : Table α) : name ∈
    (table.overlay above).keys := by
  induction above generalizing table with
  | nil => exact inside
  | cons pair rest ih =>
    refine ih (mem_keys_iff.mpr ?_)
    rw [get?_set]
    split
    · nofun
    · exact mem_keys_iff.mp inside

theorem get?_overlay_or (table above : Table α) (name : Text) :
    ((table.overlay above).get? name).or (table.get? name) = (table.overlay above).get? name := by
  cases below : table.get? name with
  | none => exact Option.or_none
  | some value =>
    have inside : name ∈ table.keys := by
      rw [mem_keys_iff, below]
      nofun
    obtain ⟨found, there⟩ := Option.ne_none_iff_exists'.mp (mem_keys_iff.mp (mem_overlay inside above))
    rw [there]
    rfl

private theorem overlay_append (distinct : (table ++ above).keys.Nodup) :
    table.overlay above = table ++ above := by
  induction above generalizing table with
  | nil => exact (List.append_nil table).symm
  | cons pair rest ih =>
    have absent : pair.1 ∉ table.keys := by
      rw [keys_append, List.nodup_append] at distinct
      exact fun inside => distinct.2.2 pair.1 inside pair.1 List.mem_cons_self rfl
    rw [List.append_cons] at distinct ⊢
    rw [overlay_cons, set_absent absent, ih distinct]

theorem ofPairs_eq (distinct : table.keys.Nodup) : ofPairs table = table :=
  overlay_append (show List.Nodup (keys ([] ++ table)) from distinct)

theorem get?_overlay (distinct : above.keys.Nodup) (table : Table α) (name : Text) :
    (table.overlay above).get? name = (above.get? name).or (table.get? name) := by
  induction above generalizing table with
  | nil => rfl
  | cons pair rest ih =>
    obtain ⟨first, others⟩ := List.nodup_cons.mp distinct
    rw [overlay_cons, ih others, get?_set, get?]
    split
    next same =>
      have later : Table.get? rest name = none := by
        by_contra there
        exact first (same ▸ mem_keys_iff.mpr there)
      rw [later]
      rfl
    next => rfl

/-- The names of the table below keep their places, and those that only the table above has come after them. -/
theorem keys_overlay (distinct : above.keys.Nodup) (table : Table α) :
    (table.overlay above).keys = table.keys ++ above.keys.filter (· ∉ table.keys) := by
  induction above generalizing table with
  | nil => exact (List.append_nil _).symm
  | cons pair rest ih =>
    obtain ⟨first, others⟩ := List.nodup_cons.mp distinct
    rw [overlay_cons, ih others, keys_cons]
    by_cases present : pair.1 ∈ table.keys
    · rw [keys_set present, List.filter_cons_of_neg (by simpa using present)]
    · have still : (keys rest).filter (· ∉ (table.set pair.1 pair.2).keys) =
          (keys rest).filter (· ∉ table.keys) := by
        refine List.filter_congr fun name inside => ?_
        have other : name ≠ pair.1 := fun same => first (same ▸ inside)
        rw [set_absent present, keys_append, decide_eq_decide, List.mem_append]
        exact not_congr (or_iff_left fun last => other (List.mem_singleton.mp last))
      rw [still, set_absent present, keys_append, List.filter_cons_of_pos (by simpa using present), List.append_assoc]
      rfl

private theorem set_set (table : Table α) (name : Text) (first second : α) :
    (table.set name first).set name second = table.set name second := by
  induction table with
  | nil => simp [Table.set]
  | cons pair rest ih =>
    by_cases same : pair.1 = name
    · simp [Table.set, same]
    · simp [Table.set, same, ih]

private theorem set_comm {other : Text} (different : name ≠ other) (present : other ∈ table.keys)
    (first second : α) :
    (table.set name first).set other second = (table.set other second).set name first := by
  induction table with
  | nil => cases present
  | cons pair rest ih =>
    by_cases here : pair.1 = name
    · have apart : pair.1 ≠ other := here ▸ different
      simp [Table.set, here, different]
    · by_cases there : pair.1 = other
      · simp [Table.set, there, Ne.symm different]
      · have later : other ∈ keys rest := (List.mem_cons.mp present).resolve_left (Ne.symm there)
        simp [Table.set, here, there, ih later]

private theorem overlay_set {above : Table α} (covered : ∀ other ∈ above.keys, other ∈ table.keys)
    (name : Text)
    (value : α) : ((table.set name value).overlay above).set name value = (table.overlay above).set name value := by
  induction above generalizing table with
  | nil => exact set_set table name value value
  | cons pair rest ih =>
    have present : pair.1 ∈ table.keys := covered pair.1 List.mem_cons_self
    have others (other) (inside : other ∈ keys rest) : other ∈ (table.set pair.1 pair.2).keys := by
      rw [keys_set present]
      exact covered other (List.mem_cons_of_mem _ inside)
    rw [overlay_cons, overlay_cons]
    by_cases same : name = pair.1
    · rw [same, set_set]
    · rw [set_comm same present, ih others]

private theorem covered_overlay (table above : Table α) :
    ∀ other ∈ above.keys, other ∈ (table.overlay above).keys := by
  induction above generalizing table with
  | nil => nofun
  | cons pair rest ih =>
    intro other inside
    obtain same | later := List.mem_cons.mp inside
    · refine mem_overlay (mem_keys_iff.mpr ?_) rest
      rw [get?_set, if_pos same.symm]
      nofun
    · exact ih _ other later

theorem overlay_overlay (table above : Table α) : (table.overlay above).overlay above = table.overlay above := by
  induction above using List.reverseRecOn with
  | nil => rfl
  | append_singleton front pair ih =>
    have last (below : Table α) : below.overlay (front ++ [pair]) = (below.overlay front).set pair.1 pair.2 :=
      List.foldl_append
    rw [last, last, overlay_set (covered_overlay table front), ih]

end CommandShell.Proofs.TableKeys
