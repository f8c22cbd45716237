import LoadSeries.Proofs.Command.Words
import LoadSeries.Proofs.Text.Numerals

/-!
A seed in front of the other words. Where they name none, they settle behind it what they settle
alone, and the seed beside it: any of the signed numbers, negative ones too.
-/
namespace LoadSeries.Command
open Text

variable {settings : List Setting} {setting : Setting} {value word : String} {kind : Word}
  {seed : Int64}

namespace Draft

variable {x y : Draft}

def withSeed (x : Draft) (seed : Int64) : Draft := { x with seed := some seed }

/-- An option either gives the seed or has nothing to do with it. -/
theorem read_cases (given : x.read setting value = .ok y) :
    y.seed.isSome ∨ setting ≠ .seed ∧ y.seed = x.seed ∧
      ∀ seed, (x.withSeed seed).read setting value = .ok (y.withSeed seed) := by
  cases setting with
  | seed =>
    obtain ⟨_, -, given⟩ := bind_eq_ok_iff.mp given
    obtain rfl := pure_eq_ok_iff.mp given
    exact .inl rfl
  | encoding =>
    simp only [read] at given ⊢
    split at given <;> cases given
    exact .inr ⟨by decide, rfl, fun _ => rfl⟩
  | metric =>
    cases given
    exact .inr ⟨by decide, rfl, fun _ => rfl⟩
  | _ =>
    obtain ⟨_, found, given⟩ := bind_eq_ok_iff.mp given
    obtain rfl := pure_eq_ok_iff.mp given
    exact .inr ⟨by decide, rfl, fun _ => bind_eq_ok_iff.mpr ⟨_, found, rfl⟩⟩

theorem seeded_kept : Kept fun x : Draft => x.seed.isSome where
  dry holds := holds
  read {x y setting value} holds given := by
    rcases read_cases given with given | ⟨-, same, -⟩
    · exact given
    · rwa [same]

theorem has_withSeed (other : setting ≠ .seed) : (x.withSeed seed).has setting = x.has setting := by
  cases setting with
  | seed => exact absurd rfl other
  | _ => rfl

theorem set_withSeed (given : x.set setting value = .ok y) (unseeded : y.seed = none) :
    (x.withSeed seed).set setting value = .ok (y.withSeed seed) := by
  unfold set at given ⊢
  split at given
  · cases given
  · rename_i fresh
    rcases read_cases given with seeded | ⟨other, -, again⟩
    · rw [unseeded] at seeded
      cases seeded
    · rw [has_withSeed other, if_neg fresh]
      exact again seed

theorem set_seed (unseeded : x.seed = none) :
    x.set .seed (intString seed.toInt) = .ok (x.withSeed seed) := by
  have low := seed.le_toInt
  have high := seed.toInt_lt
  have number : integer .seed 0x8000000000000000 0x7fffffffffffffff (intString seed.toInt) =
      .ok seed.toInt := by
    rw [integer, intString, String.toList_ofList, readInteger_intText (by omega) (by omega)]
    rfl
  have fresh : x.has .seed = false := by rw [has, unseeded, Option.isSome_none]
  rw [set, fresh, if_neg Bool.false_ne_true]
  refine bind_eq_ok_iff.mpr ⟨_, number, ?_⟩
  rw [Int64.ofInt_toInt]
  rfl

end Draft

namespace Word

theorem isNumber_of_digits {seenPoint seenExponent isFirst : Bool} {text : List Char}
    (digit : ∀ c ∈ text, isDigit c = true) :
    isNumber seenPoint seenExponent isFirst text = true := by
  induction text generalizing isFirst with
  | nil => rfl
  | cons c rest ih =>
    rw [isNumber, if_pos (digit c List.mem_cons_self)]
    exact ih fun d member => digit d (List.mem_cons_of_mem c member)

/-- The word of an integer is either no option at all or, if it is negative, a number. -/
theorem plain_or_isNegativeNumber (settings : List Setting) (n : Int) :
    ofString settings (intString n) = .plain ∨ isNegativeNumber (intString n) = true := by
  have digit : ∀ c ∈ digits n.natAbs, isDigit c = true := fun c => isDigit_of_mem_digits
  obtain ⟨first, later, some⟩ := List.exists_cons_of_ne_nil (digits_ne_nil n.natAbs)
  by_cases negative : n < 0
  · right
    simp only [isNegativeNumber, intString, String.toList_ofList, intText, if_pos negative]
    rw [isNumber_of_digits digit, some]
    rfl
  · left
    simp only [ofString, intString, String.toList_ofList, intText, if_neg negative, some]
    have known : isDigit first = true := digit first (some ▸ List.mem_cons_self)
    split
    · rename_i same
      cases same
      cases known
    · rename_i same
      cases same
      cases known
    · rfl

theorem intString_ne_hyphens (n : Int) : intString n ≠ "--" := by
  intro same
  have number : readInteger n.natAbs n.natAbs (intText n) = .ok n :=
    readInteger_intText (by omega) (by omega)
  have text : intText n = ['-', '-'] := by
    rw [← String.toList_ofList (l := intText n)]
    exact congrArg String.toList same
  rw [text] at number
  cases number

end Word

namespace Parsing

variable {x y next : Parsing} {draft : Draft} {rest : List String}

def withSeed (x : Parsing) (seed : Int64) : Parsing := ⟨x.draft.withSeed seed, x.pending⟩

/-- To the words that follow, the one parsing is the other with a seed. -/
structure Seeds (seed : Int64) (x y : Parsing) : Prop where
  settles : ∀ draft, x.settle = .ok draft → draft.seed = none →
    y.settle = .ok (draft.withSeed seed)
  takes : ∀ word kind, y.takesValue word kind = x.takesValue word kind
  draft : ∀ word kind setting, x.takesValue word kind = some setting →
    y.draft = x.draft.withSeed seed

theorem seeds_withSeed (x : Parsing) : Seeds seed x (x.withSeed seed) where
  settles draft settled unseeded := by
    obtain ⟨before, pending⟩ := x
    unfold settle at settled ⊢
    match pending with
    | none =>
      cases settled
      rfl
    | some (_, none) => cases settled
    | some (_, some _) => exact Draft.set_withSeed settled unseeded
  takes _ _ := rfl
  draft _ _ _ _ := rfl

/-- The value of a seed that has not been read yet counts for the seed. -/
theorem seeds_pending (unseeded : draft.seed = none) :
    Seeds seed ⟨draft, none⟩ ⟨draft, some (.seed, some (intString seed.toInt))⟩ where
  settles later settled _ := by
    cases settled
    exact Draft.set_seed unseeded
  takes _ kind := by cases kind <;> rfl
  draft _ kind _ taken := by cases kind <;> cases taken

theorem Seeds.begin? (seeds : Seeds seed x y) (begun : x.begin? word kind = .ok next)
    (unseeded : next.draft.seed = none) : y.begin? word kind = .ok (next.withSeed seed) := by
  unfold Parsing.begin? at begun ⊢
  split at begun
  · cases begun
  · cases begun
  · cases begun
  · obtain ⟨draft, -, failed⟩ := bind_eq_ok_iff.mp begun
    cases failed
  · obtain ⟨draft, settled, begun⟩ := bind_eq_ok_iff.mp begun
    split at begun
    · cases begun
    · rename_i wet
      obtain rfl := pure_eq_ok_iff.mp begun
      exact bind_eq_ok_iff.mpr ⟨_, seeds.settles draft settled unseeded, if_neg wet⟩
  · obtain ⟨draft, settled, begun⟩ := bind_eq_ok_iff.mp begun
    obtain rfl := pure_eq_ok_iff.mp begun
    exact bind_eq_ok_iff.mpr ⟨_, seeds.settles draft settled unseeded, rfl⟩
  · obtain ⟨draft, settled, begun⟩ := bind_eq_ok_iff.mp begun
    obtain ⟨later, given, begun⟩ := bind_eq_ok_iff.mp begun
    obtain rfl := pure_eq_ok_iff.mp begun
    have before : draft.seed = none := by
      rw [← Option.not_isSome_iff_eq_none] at unseeded ⊢
      exact fun holds => unseeded (Draft.seeded_kept.set holds given)
    refine bind_eq_ok_iff.mpr ⟨_, seeds.settles draft settled before, bind_eq_ok_iff.mpr ?_⟩
    exact ⟨_, Draft.set_withSeed given unseeded, rfl⟩

theorem unseeded_of_words (parsed : x.words settings rest = .ok draft)
    (unseeded : draft.seed = none) : x.draft.seed = none := by
  rw [← Option.not_isSome_iff_eq_none] at unseeded ⊢
  exact fun holds => unseeded (Draft.seeded_kept.words holds parsed)

theorem words_of_taken (other : word ≠ "--")
    (taken : x.takesValue word (Word.ofString settings word) = some setting) :
    x.words settings (word :: rest) =
      (⟨x.draft, some (setting, some word)⟩ : Parsing).words settings rest := by
  have plain : ¬ (word == "--") = true := fun same => other (beq_iff_eq.mp same)
  conv_lhs => unfold Parsing.words
  rw [if_neg plain]
  dsimp only
  rw [taken]

theorem words_of_begun (other : word ≠ "--")
    (free : x.takesValue word (Word.ofString settings word) = none)
    (begun : x.begin? word (Word.ofString settings word) = .ok next) :
    x.words settings (word :: rest) = next.words settings rest := by
  have plain : ¬ (word == "--") = true := fun same => other (beq_iff_eq.mp same)
  conv_lhs => unfold Parsing.words
  rw [if_neg plain]
  dsimp only
  rw [free, begun]

/-- Words that name no seed leave the one there is. -/
theorem Seeds.words (seeds : Seeds seed x y) (parsed : x.words settings rest = .ok draft)
    (unseeded : draft.seed = none) : y.words settings rest = .ok (draft.withSeed seed) := by
  induction rest generalizing x y with
  | nil => exact seeds.settles draft parsed unseeded
  | cons word rest ih =>
    unfold Parsing.words at parsed
    split at parsed
    · rename_i hyphens
      unfold Parsing.words
      rw [if_pos hyphens]
      split at parsed
      · exact seeds.settles draft parsed unseeded
      · cases parsed
    · rename_i plain
      have other : word ≠ "--" := fun same => plain (beq_iff_eq.mpr same)
      dsimp only at parsed
      have takes := seeds.takes word (Word.ofString settings word)
      split at parsed
      · rename_i taken
        rw [words_of_taken other (takes.trans taken), seeds.draft _ _ _ taken]
        exact ih (seeds_withSeed _) parsed
      · rename_i free
        split at parsed
        · cases parsed
        · rename_i next begun
          have again := seeds.begin? begun (unseeded_of_words parsed unseeded)
          rw [words_of_begun other (takes.trans free) again]
          exact ih (seeds_withSeed next) parsed

theorem takesValue_seed {n : Int} :
    (⟨draft, some (.seed, none)⟩ : Parsing).takesValue (intString n)
      (Word.ofString settings (intString n)) = some .seed := by
  rcases Word.plain_or_isNegativeNumber settings n with plain | negative
  · rw [plain]
    rfl
  · cases Word.ofString settings (intString n) with
    | plain => rfl
    | _ => exact if_pos negative

/-- Two words in front name a seed: the option and, behind it, the number. -/
theorem words_seed (target : Target) (draft : Draft) (rest : List String) :
    (⟨draft, none⟩ : Parsing).words target.settings ("--seed" :: intString seed.toInt :: rest) =
      (⟨draft, some (.seed, some (intString seed.toInt))⟩ : Parsing).words target.settings
        rest := by
  have option : Word.ofString target.settings "--seed" = .setting .seed none := by
    cases target <;> rfl
  have begun : (⟨draft, none⟩ : Parsing).begin? "--seed" (Word.ofString target.settings "--seed") =
      .ok ⟨draft, some (.seed, none)⟩ := by
    rw [option]
    rfl
  rw [words_of_begun (by decide) (by rw [option]; rfl) begun,
    words_of_taken (Word.intString_ne_hyphens seed.toInt) takesValue_seed]

end Parsing

namespace Arguments

variable {arguments : Arguments} {target : Target} {words : List String}

def withSeed (x : Arguments) (seed : Int64) : Arguments := { x with seed := some seed }

theorem ofWords_target : ofWords ("populate" :: target.name :: words) =
    Parsing.words target.settings ⟨{}, none⟩ words >>= ofDraft target := by
  cases target <;> rfl

theorem ofDraft_withSeed {draft : Draft} (seed : Int64)
    (settled : ofDraft target draft = .ok arguments) :
    ofDraft target (draft.withSeed seed) = .ok (arguments.withSeed seed) ∧
      arguments.seed = draft.seed := by
  unfold ofDraft at settled ⊢
  split at settled
  · rename_i dataset output
    cases settled
    simp only [Draft.withSeed, withSeed, dataset, output, and_self]
  · cases settled

/-- Behind a seed the words that name none give the same arguments with that seed. -/
theorem ofWords_seed
    (read : ofWords ("populate" :: target.name :: words) = .ok arguments)
    (unseeded : arguments.seed = none) (seed : Int64) :
    ofWords ("populate" :: target.name :: "--seed" :: intString seed.toInt :: words) =
      .ok (arguments.withSeed seed) := by
  rw [ofWords_target] at read ⊢
  obtain ⟨draft, parsed, settled⟩ := bind_eq_ok_iff.mp read
  obtain ⟨again, same⟩ := ofDraft_withSeed seed settled
  have none : draft.seed = none := same.symm.trans unseeded
  rw [Parsing.words_seed]
  exact bind_eq_ok_iff.mpr ⟨_, (Parsing.seeds_pending rfl).words parsed none, again⟩

end Arguments

end LoadSeries.Command
