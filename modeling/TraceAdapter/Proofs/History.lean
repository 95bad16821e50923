/-!
# What stands of a history

Something that one event makes and another undoes stands at the end of a history when it
was made at some point and not undone since.
-/

namespace TraceAdapter
namespace History

variable {α : Type}

/-- Something was made, and nothing that came later undid it. -/
def Stands (makes undoes : α -> Prop) (events : List α) : Prop :=
  exists before event later, events = before ++ event :: later ∧ makes event ∧
    forall other, other ∈ later -> ¬ undoes other

variable {makes undoes : α -> Prop}

theorem not_stands_nil : ¬ Stands makes undoes [] := by
  rintro ⟨before, event, later, hevents, _⟩
  exact List.append_ne_nil_of_right_ne_nil before (List.cons_ne_nil event later) hevents.symm

/-- One more event may make it anew; otherwise it stands when it stood before and this
event does not undo it. -/
theorem stands_snoc {events : List α} {event : α} :
    Stands makes undoes (events ++ [event]) ↔
      makes event ∨ (Stands makes undoes events ∧ ¬ undoes event) := by
  constructor
  · rintro ⟨before, first, later, hevents, hmakes, hlater⟩
    rcases List.eq_nil_or_concat later with rfl | ⟨front, last, rfl⟩
    · have hlast := List.append_inj_right' hevents rfl
      cases hlast
      exact Or.inl hmakes
    · have hsplit : events ++ [event] = (before ++ first :: front) ++ [last] := by
        rw [hevents, List.append_assoc, List.cons_append, List.concat_eq_append]
      rcases List.append_inj' hsplit rfl with ⟨hfront, hlast⟩
      cases hlast
      rw [List.concat_eq_append] at hlater
      refine Or.inr ⟨⟨before, first, front, hfront, hmakes, ?_⟩, ?_⟩
      · intro other hother
        exact hlater other (List.mem_append_left _ hother)
      · exact hlater event (List.mem_append_right _ List.mem_cons_self)
  · rintro (hmakes | ⟨⟨before, first, later, rfl, hmakes, hlater⟩, hkeeps⟩)
    · exact ⟨events, event, [], rfl, hmakes, by simp⟩
    · refine ⟨before, first, later ++ [event], by simp, hmakes, ?_⟩
      intro other hother
      rcases List.mem_append.mp hother with hold | hnew
      · exact hlater other hold
      · rw [List.mem_singleton.mp hnew]
        exact hkeeps

end History
end TraceAdapter
