import LedStudio.Prompt
import LedStudio.Proofs.Outcome
import LedStudio.Proofs.Text.Case

/-!
# Which keyword is heard in a prompt

The prompt is looked through in lower case, but a keyword as it stands in the table. A keyword in
lower case is found whatever its case in the prompt. Every other keyword has a capital letter, and
there is none in the prompt that is looked through.

* `occursIn_lowerPoints` — which keywords are found.
* `suggest_first` — the pattern of the first of them, or the fallback.
-/

namespace LedStudio

theorem Text.occursIn_iff {α : Type} [BEq α] [LawfulBEq α] {needle text : List α} :
    occursIn needle text = true ↔ needle <:+: text := by
  induction text with
  | nil => rw [occursIn, List.isEmpty_iff, List.infix_nil]
  | cons c rest ih =>
    rw [occursIn, Bool.or_eq_true, List.isPrefixOf_iff_prefix, ih, List.infix_cons_iff]

/-- A text that lower case leaves as it is. -/
def IsLowerCase (s : String) : Prop :=
  Text.lowerPoints (Value.text s).points = (Value.text s).points

instance (s : String) : Decidable (IsLowerCase s) :=
  inferInstanceAs (Decidable (Text.lowerPoints (Value.text s).points = (Value.text s).points))

namespace Value

/-- The keyword occurs in the text, ignoring the case of both. -/
def Mentions (prompt : Value) (keyword : String) : Prop :=
  Text.lowerPoints (text keyword).points <:+: Text.lowerPoints prompt.points

/-- The keyword is found in the text. -/
def Hears (prompt : Value) (keyword : String) : Prop :=
  IsLowerCase keyword ∧ prompt.Mentions keyword

/-- A prompt, or a value that counts as none. -/
def IsPrompt (v : Value) : Prop := v.kind = .text ∨ v.isTruthy = false

end Value

variable {prompt : Value} {keyword : String} {table : KeywordTable} {fallback : PatternId}

/-- **Only a keyword in lower case is found**, and that whatever the case of the prompt. -/
theorem occursIn_lowerPoints :
    Text.occursIn (keyword.toList.map Char.toNat) (Text.lowerPoints prompt.points) = true ↔
      prompt.Hears keyword := by
  rw [Text.occursIn_iff]
  constructor
  · intro h
    have hlower : IsLowerCase keyword :=
      Text.lowerPoints_eq_self fun n hn => Text.notCapital_of_mem_lowerPoints (h.subset hn)
    refine ⟨hlower, ?_⟩
    rw [Value.Mentions, hlower]
    exact h
  · rintro ⟨hlower, hmentions⟩
    rw [Value.Mentions, hlower] at hmentions
    exact hmentions

theorem promptPoints_eq (h : prompt.IsPrompt) :
    promptPoints prompt = .ok (Text.lowerPoints prompt.points) := by
  rcases h with htext | hfalse
  · simp only [promptPoints, htext]
  · cases prompt with
    | text s => rfl
    | brokenText points => rfl
    | again isMap => cases hfalse
    | _ =>
      simp only [promptPoints, Value.kind, hfalse, Bool.false_eq_true, if_false]
      rfl

/-- What is found in a table is its first entry that is heard. -/
theorem firstIn_eq_some {p : PatternId}
    (h : table.firstIn (Text.lowerPoints prompt.points) = some p) : ∃ before keyword after,
      table = before ++ (keyword, p) :: after ∧ prompt.Hears keyword ∧
        ∀ entry ∈ before, ¬prompt.Hears entry.1 := by
  obtain ⟨⟨keyword, q⟩, hfound, rfl⟩ := Option.map_eq_some_iff.mp h
  obtain ⟨hkeyword, before, after, rfl, hbefore⟩ := List.find?_eq_some_iff_append.mp hfound
  refine ⟨before, keyword, after, rfl, occursIn_lowerPoints.mp hkeyword, fun entry hentry => ?_⟩
  rw [← occursIn_lowerPoints, Bool.not_eq_true, ← Bool.not_eq_true']
  exact hbefore entry hentry

theorem firstIn_eq_none (h : table.firstIn (Text.lowerPoints prompt.points) = none) :
    ∀ entry ∈ table, ¬prompt.Hears entry.1 := by
  have hnone := List.find?_eq_none.mp (Option.map_eq_none_iff.mp h)
  intro entry hentry
  rw [← occursIn_lowerPoints]
  exact hnone entry hentry

/-- The keywords of the program are in lower case. -/
theorem keywordTable_lowerCase : ∀ entry ∈ keywordTable, IsLowerCase entry.1 := by
  decide +kernel

/-- **A prompt suggests the pattern of the first keyword in lower case that it mentions**, and the
fallback just if it mentions none of these. So no case matters with the keywords of the program, and
no keyword with a capital letter is ever found. -/
theorem suggest_first (table : KeywordTable) (fallback : PatternId) (prompt : Value) :
    (prompt.IsPrompt → ∃ p, suggest table fallback prompt = .ok p ∧
      ((∃ before keyword after, table = before ++ (keyword, p) :: after ∧
          prompt.Hears keyword ∧ ∀ entry ∈ before, ¬prompt.Hears entry.1) ∨
        p = fallback ∧ ∀ entry ∈ table, ¬prompt.Hears entry.1)) ∧
    (∀ entry ∈ keywordTable, prompt.Hears entry.1 ↔ prompt.Mentions entry.1) := by
  refine ⟨fun h => ?_, fun entry hentry => ?_⟩
  · rw [suggest, promptPoints_eq h]
    cases hfirst : table.firstIn (Text.lowerPoints prompt.points) with
    | none => exact ⟨fallback, by simp only [Except.map, hfirst, Option.getD_none],
        .inr ⟨rfl, firstIn_eq_none hfirst⟩⟩
    | some p => exact ⟨p, by simp only [Except.map, hfirst, Option.getD_some],
        .inl (firstIn_eq_some hfirst)⟩
  · exact and_iff_right (keywordTable_lowerCase entry hentry)

theorem suggest_first_ocean :
    let prompt := Value.text "An OCEAN party"
    prompt.IsPrompt ∧ suggest keywordTable fallbackPattern prompt = .ok .wave ∧
      ∃ before keyword after, keywordTable = before ++ (keyword, .wave) :: after ∧
        prompt.Hears keyword ∧ ∀ entry ∈ before, ¬prompt.Hears entry.1 := by
  intro prompt
  have hprompt : prompt.IsPrompt := .inl rfl
  have hwave : suggest keywordTable fallbackPattern prompt = .ok .wave :=
    Outcome.eq_ok_of_toOption (by decide +kernel)
  obtain ⟨p, hp, hfirst | ⟨rfl, -⟩⟩ := (suggest_first keywordTable fallbackPattern prompt).1 hprompt
  · obtain rfl := Except.ok.inj (hwave.symm.trans hp)
    exact ⟨hprompt, hwave, hfirst⟩
  · cases Except.ok.inj (hwave.symm.trans hp)

/-- A keyword with a capital letter is not found in a prompt that mentions it. -/
theorem suggest_misses_capital :
    (Value.text "ocean").Mentions "Ocean" ∧
      suggest [("Ocean", .wave)] .sparkle (.text "ocean") = .ok .sparkle := by
  refine ⟨?_, Outcome.eq_ok_of_toOption (by decide +kernel)⟩
  unfold Value.Mentions
  decide +kernel

end LedStudio
