import LoadSeries.Command.Arguments
import LoadSeries.Proofs.Populate.Verdict

/-!
What the words of a command line settle. A property of drafts that no option destroys holds of the
draft of all words; so of every separator that has been accepted, also where none is needed.
-/
namespace LoadSeries.Command

variable {P : Draft → Prop} {settings : List Setting} {setting : Setting} {value : String}
  {x y : Draft}

/-- No option destroys the property, and neither does the flag of a dry run. -/
structure Kept (P : Draft → Prop) : Prop where
  read : ∀ {x y setting value}, P x → x.read setting value = .ok y → P y
  dry : ∀ {x}, P x → P { x with dryRun := true }

namespace Kept

variable {parsing next : Parsing} (kept : Kept P)
include kept

theorem set (holds : P x) (given : x.set setting value = .ok y) : P y := by
  unfold Draft.set at given
  split at given
  · cases given
  · exact kept.read holds given

theorem settle (holds : P parsing.draft) (settled : parsing.settle = .ok y) : P y := by
  unfold Parsing.settle at settled
  split at settled
  · cases settled
    exact holds
  · cases settled
  · exact kept.set holds settled

theorem begin? {word : String} {kind : Word} (holds : P parsing.draft)
    (begun : parsing.begin? word kind = .ok next) : P next.draft := by
  unfold Parsing.begin? at begun
  split at begun
  · cases begun
  · cases begun
  · cases begun
  · obtain ⟨draft, -, failed⟩ := bind_eq_ok_iff.mp begun
    cases failed
  · obtain ⟨draft, settled, begun⟩ := bind_eq_ok_iff.mp begun
    split at begun
    · cases begun
    · obtain rfl := pure_eq_ok_iff.mp begun
      exact kept.dry (kept.settle holds settled)
  · obtain ⟨draft, settled, begun⟩ := bind_eq_ok_iff.mp begun
    obtain rfl := pure_eq_ok_iff.mp begun
    exact kept.settle holds settled
  · obtain ⟨draft, settled, begun⟩ := bind_eq_ok_iff.mp begun
    obtain ⟨later, given, begun⟩ := bind_eq_ok_iff.mp begun
    obtain rfl := pure_eq_ok_iff.mp begun
    exact kept.set (kept.settle holds settled) given

theorem words {words : List String} (holds : P parsing.draft)
    (parsed : parsing.words settings words = .ok y) : P y := by
  induction words generalizing parsing with
  | nil => exact kept.settle holds parsed
  | cons word rest ih =>
    unfold Parsing.words at parsed
    split at parsed
    · -- Behind two hyphens there is no word.
      split at parsed
      · exact kept.settle holds parsed
      · cases parsed
    · simp only at parsed
      split at parsed
      · rename_i taker _
        have onward : P (Parsing.mk parsing.draft (some (taker, some word))).draft := holds
        exact ih onward parsed
      · split at parsed
        · cases parsed
        · rename_i begun
          exact ih (kept.begin? holds begun) parsed

end Kept

namespace Draft

/-- A separator that has been given is none with which numbers or lines are written. -/
def Vetted (x : Draft) : Prop := ∀ c ∈ x.separator, Line.isReserved c = false

theorem free_of_separatorOf {c : Char} (given : separatorOf value = .ok c) :
    Line.isReserved c = false := by
  unfold separatorOf at given
  split at given
  · split at given
    · rename_i passed
      cases given
      exact Line.isReserved_of_checkSeparator passed
    · cases given
  · cases given

theorem vetted_kept : Kept Vetted where
  dry holds := holds
  read {x y setting value} holds given := by
    cases setting with
    | separator =>
      obtain ⟨c, accepted, given⟩ := bind_eq_ok_iff.mp given
      obtain rfl := pure_eq_ok_iff.mp given
      rintro _ ⟨⟩
      exact free_of_separatorOf accepted
    | encoding =>
      simp only [read] at given
      split at given <;> cases given
      exact holds
    | metric =>
      cases given
      exact holds
    | _ =>
      obtain ⟨_, -, given⟩ := bind_eq_ok_iff.mp given
      obtain rfl := pure_eq_ok_iff.mp given
      exact holds

end Draft

namespace Arguments

variable {arguments : Arguments} {words : List String}

theorem vetted_of_ofDraft {target : Target} {draft : Draft} (vetted : draft.Vetted)
    (settled : ofDraft target draft = .ok arguments) :
    arguments.target = target ∧ Line.isReserved arguments.separator = false := by
  unfold ofDraft at settled
  split at settled
  · cases settled
    refine ⟨rfl, ?_⟩
    cases given : draft.separator with
    | none => rfl
    | some c => exact vetted c given
  · cases settled

theorem vetted_of_ofWords (read : ofWords words = .ok arguments) :
    Line.isReserved arguments.separator = false := by
  unfold ofWords at read
  obtain ⟨⟨_, targetWords⟩, -, read⟩ := bind_eq_ok_iff.mp read
  unfold ofTargetWords at read
  obtain ⟨⟨name, rest⟩, -, read⟩ := bind_eq_ok_iff.mp read
  simp only at read
  split at read
  · obtain ⟨draft, parsed, read⟩ := bind_eq_ok_iff.mp read
    have vetted : draft.Vetted := Draft.vetted_kept.words (by simp [Draft.Vetted]) parsed
    exact (vetted_of_ofDraft vetted read).2
  · cases read

end Arguments

end LoadSeries.Command
