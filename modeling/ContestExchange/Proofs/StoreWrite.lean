import ContestExchange.Station.Store

namespace ContestExchange
namespace Store

/-!
# What was written is read back

Writing a file changes what is at one place.  A path still leads where it led before: on its way it
meets folders only, none of them is the file that was written, and a folder stays one whatever is
put elsewhere.  So the path that a document was written under reads what was written of it.
-/

variable {store written : Store} {place other start : Place} {stored : Stored} {path : Text}
  {content : Value}

theorem lookup?_put_self (store : Store) (place : Place) (stored : Stored) :
    (store.put place stored).lookup? place = some stored := by
  have removed : (store.entries.filter fun entry => entry.1 != place).find?
      (fun entry => entry.1 == place) = none := by
    rw [List.find?_eq_none]
    intro entry member
    have apart := (List.mem_filter.mp member).2
    rw [bne_iff_ne] at apart
    rwa [beq_iff_eq]
  rw [lookup?, put, List.find?_append, removed, Option.none_or, List.find?_cons, beq_self_eq_true]
  rfl

theorem lookup?_put_of_ne (apart : other ≠ place) :
    (store.put place stored).lookup? other = store.lookup? other := by
  rw [lookup?, lookup?, put, List.find?_append, List.find?_filter]
  have same : (fun entry : Place × Stored =>
      decide ((entry.1 != place) = true ∧ (entry.1 == other) = true)) =
      fun entry => entry.1 == other := by
    funext entry
    rw [Bool.eq_iff_iff, decide_eq_true_iff, bne_iff_ne, beq_iff_eq]
    exact ⟨And.right, fun here => ⟨here ▸ apart, here⟩⟩
  have elsewhere : [(place, stored)].find? (fun entry => entry.1 == other) = none := by
    rw [List.find?_cons, beq_false_of_ne apart.symm]
    rfl
  rw [same, elsewhere, Option.or_none]

/-- A folder stays one when something is put at another place. -/
theorem find?_put_of_folder (folder : store.find? other = some .folder) (apart : other ≠ place) :
    (store.put place stored).find? other = some .folder := by
  unfold find? at folder ⊢
  rw [lookup?_put_of_ne apart]
  cases known : store.lookup? other with
  | some own =>
      rw [known] at folder
      exact folder
  | none =>
      rw [known] at folder
      dsimp only at folder ⊢
      by_cases given : other.isGiven = true
      · rw [given]
        rfl
      -- Something lies in the folder, and it is still there or has been replaced at its place.
      · have held : (store.entries.any fun entry => other.holds entry.1) = true := by
          rw [Bool.eq_false_iff.mpr given, Bool.false_or] at folder
          split at folder
          · rename_i held
            exact held
          · cases folder
        rcases List.any_eq_true.mp held with ⟨entry, member, holds⟩
        have stays : ((store.put place stored).entries.any fun entry => other.holds entry.1) =
            true := by
          rw [List.any_eq_true]
          by_cases here : entry.1 = place
          · exact ⟨(place, stored), List.mem_append_right _ List.mem_cons_self, here ▸ holds⟩
          · have kept : entry ∈ store.entries.filter fun entry => entry.1 != place :=
              List.mem_filter.mpr ⟨member, bne_iff_ne.mpr here⟩
            exact ⟨entry, List.mem_append_left _ kept, holds⟩
        rw [stays, Bool.or_true]
        rfl

/-- Names lead on as before, because the file at their end is on the way of none of them. -/
theorem follow_put {names : List Text} (noFolder : store.find? place ≠ some .folder)
    (followed : store.follow start names = .ok place) :
    (store.put place stored).follow start names = .ok place := by
  induction names generalizing start with
  | nil => exact followed
  | cons name rest inductionHypothesis =>
      unfold follow at followed ⊢
      split at followed
      · cases followed
      · cases followed
      · cases followed
      · cases followed
      · rename_i folder
        have apart : start ≠ place := fun same => noFolder (same ▸ folder)
        rw [find?_put_of_folder folder apart]
        dsimp only
        split at followed
        · cases followed
        · rename_i short
          rw [if_neg short]
          exact inductionHypothesis followed

theorem locate_put (noFolder : store.find? place ≠ some .folder)
    (located : store.locate path = .ok place) :
    (store.put place stored).locate path = .ok place := by
  unfold locate at located ⊢
  split at located
  · cases located
  · rename_i usable
    rw [if_neg usable]
    split at located
    · cases located
    · rename_i short
      rw [if_neg short]
      exact follow_put noFolder located

theorem writeDocument_eq (done : store.writeDocument path content = .ok written) :
    ∃ place, store.locate path = .ok place ∧ store.find? place ≠ some .folder ∧
      written = store.put place (.file (.document content.asWritten)) := by
  unfold writeDocument at done
  cases located : store.locate path with
  | error fault =>
      rw [located] at done
      cases done
  | ok place =>
      rw [located] at done
      dsimp only [bind, Except.bind] at done
      split at done
      · cases done
      · cases done
      · cases done
      · cases done
      · rename_i noFolder _ _ _
        cases done
        exact ⟨place, rfl, noFolder, rfl⟩

theorem look_of_file {content : FileContent} (located : store.locate path = .ok place)
    (found : store.find? place = some (.file content)) :
    store.look path = .ok (.file content) := by
  rw [look, located]
  dsimp only [bind, Except.bind]
  rw [found]

/-- The path that a document was written under leads to what was written of it. -/
theorem read_of_writeDocument (done : store.writeDocument path content = .ok written) :
    written.exists? path = .ok true ∧ written.readDocument path = .ok content.asWritten := by
  rcases writeDocument_eq done with ⟨place, located, noFolder, same⟩
  have stays : written.locate path = .ok place := by
    rw [same]
    exact locate_put noFolder located
  have found : written.find? place = some (.file (.document content.asWritten)) := by
    rw [same, find?, lookup?_put_self]
  have seen := look_of_file stays found
  constructor
  · rw [exists?, seen]
  · rw [readDocument, read, seen]
    rfl

end Store
end ContestExchange
