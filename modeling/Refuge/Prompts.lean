import Refuge.Stdin
import Refuge.Foundation.Loop

/-!
# The prompts of the client

`get_options` asks for an option, `get_supplies_options` for a category and an
amount, each in a loop around `scanf` until the value is one it can use.  A
rejected integer has been read, but what is no integer stays where it is and
is what the next round finds.  So a loop gets past white space and integers
only.
-/

namespace Refuge

open Foundation

/-- A loop that asks for an integer. -/
structure Prompt where
  accepts : Int → Bool
  /-- The variable is set to zero again when its value is rejected. -/
  resets : Bool
  /-- Zero, which the variable starts with, is rejected. -/
  zero_rejected : accepts 0 = false

def OPTION_END : Int := 3

/-- The loop of `get_options`. -/
def optionPrompt : Prompt where
  accepts := fun option => option = 1 || option = 2 || option = OPTION_END
  resets := true
  zero_rejected := rfl

/-- The first loop of `get_supplies_options`. -/
def categoryPrompt : Prompt where
  accepts := fun option => option = 1 || option = 2
  resets := true
  zero_rejected := rfl

/-- Its second loop. -/
def amountPrompt : Prompt where
  accepts := fun value => !(value ≤ 0)
  resets := false
  zero_rejected := rfl

namespace Prompt

variable (takesSign : Bool) (prompt : Prompt)

/-- A round: the variable and standard input before and after it. -/
def round : Int × Text → Round (Int × Text) (Int × Text)
  | (value, stdin) =>
      let (read, stdin) := scanfD takesSign stdin
      let value := read.getD value
      if prompt.accepts value then .done (value, stdin)
      else .again (if prompt.resets then 0 else value, stdin)

/-- The value that a loop ends with, and what it leaves of standard input. -/
def Takes (stdin : Text) (value : Int) (rest : Text) : Prop :=
  Ends (prompt.round takesSign) (0, stdin) (value, rest)

/-- A text starts with white space and integers that are no answers, up to the rest. -/
inductive Passes : Text → Text → Prop
  | refl (text : Text) : Passes text text
  | space {byte : Char} {text rest : Text}
      (blank : isSpace byte = true) (passes : Passes text rest) : Passes (byte :: text) rest
  | integer {text next rest : Text} {value : Int}
      (scanned : scanInteger text = some (value, next))
      (rejected : prompt.accepts value = false) (passes : Passes next rest) : Passes text rest
  /-- A lone sign is passed too, if `scanf` takes it. -/
  | sign {text rest : Text}
      (takes : takesSign = true) (none : scanInteger text = none)
      (passes : Passes (scanSign text).2 rest) : Passes text rest

/-- A line without anything else in it. -/
def Clean (line : Text) : Prop :=
  prompt.Passes takesSign line []

/-- The first answer in a text, when only white space and other integers stand
before it. -/
def FirstAnswer (text : Text) (value : Int) (rest : Text) : Prop :=
  ∃ middle, prompt.Passes takesSign text middle ∧ scanInteger middle = some (value, rest) ∧
    prompt.accepts value = true

end Prompt

namespace Prompt

variable {takesSign : Bool} {prompt : Prompt}

theorem Passes.trans
    {text middle rest : Text} (first : prompt.Passes takesSign text middle)
    (second : prompt.Passes takesSign middle rest) : prompt.Passes takesSign text rest := by
  induction first with
  | refl _ => exact second
  | space blank _ inductionHypothesis => exact .space blank (inductionHypothesis second)
  | integer scanned rejected _ inductionHypothesis =>
      exact .integer scanned rejected (inductionHypothesis second)
  | sign takes none _ inductionHypothesis => exact .sign takes none (inductionHypothesis second)

theorem passes_dropWhile_isSpace (text : Text) :
    prompt.Passes takesSign text (text.dropWhile isSpace) := by
  induction text with
  | nil => exact .refl []
  | cons byte text inductionHypothesis =>
      rw [List.dropWhile_cons]
      split
      · exact .space ‹_› inductionHypothesis
      · exact .refl _

theorem Passes.firstAnswer
    {text middle rest : Text} {value : Int} (passes : prompt.Passes takesSign text middle)
    (answer : prompt.FirstAnswer takesSign middle value rest) :
    prompt.FirstAnswer takesSign text value rest := by
  obtain ⟨start, further, scanned, accepted⟩ := answer
  exact ⟨start, passes.trans further, scanned, accepted⟩

/-- What is held for the next round is rejected. -/
theorem accepts_reset {held : Int} (rejected : prompt.accepts held = false) :
    prompt.accepts (if prompt.resets then 0 else held) = false := by
  split
  · exact prompt.zero_rejected
  · exact rejected

/-- A round takes the first answer, or goes on behind something it passes. -/
theorem round_cases {held : Int} (unanswered : prompt.accepts held = false) (stdin : Text) :
    (∃ value rest, prompt.FirstAnswer takesSign stdin value rest ∧
        prompt.round takesSign (held, stdin) = .done (value, rest)) ∨
      ∃ other next, prompt.accepts other = false ∧ prompt.Passes takesSign stdin next ∧
        prompt.round takesSign (held, stdin) = .again (other, next) := by
  have blanks := @passes_dropWhile_isSpace takesSign prompt stdin
  cases scanned : scanInteger (stdin.dropWhile isSpace) with
  | some integer =>
      obtain ⟨value, rest⟩ := integer
      have read : scanfD takesSign stdin = (some value, rest) := by simp [scanfD, scanned]
      cases accepted : prompt.accepts value with
      | true =>
          exact .inl ⟨value, rest, ⟨_, blanks, scanned, accepted⟩, by simp [round, read, accepted]⟩
      | false =>
          exact .inr ⟨if prompt.resets then 0 else value, rest, accepts_reset accepted,
            blanks.trans (.integer scanned accepted (.refl rest)),
            by simp [round, read, accepted]⟩
  | none =>
      have read : scanfD takesSign stdin =
          (none, if takesSign then (scanSign (stdin.dropWhile isSpace)).2
            else stdin.dropWhile isSpace) := by simp [scanfD, scanned]
      refine .inr ⟨if prompt.resets then 0 else held,
        if takesSign then (scanSign (stdin.dropWhile isSpace)).2 else stdin.dropWhile isSpace,
        accepts_reset unanswered, ?_, by simp [round, read, unanswered]⟩
      split
      · exact blanks.trans (.sign ‹_› scanned (.refl _))
      · exact blanks

/-- A loop does not end at what it passes. -/
theorem Passes.ends
    {held : Int} {text middle rest : Text} {value : Int}
    (passes : prompt.Passes takesSign text middle) (unanswered : prompt.accepts held = false)
    (scanned : scanInteger middle = some (value, rest)) (accepted : prompt.accepts value = true) :
    Ends (prompt.round takesSign) (held, text) (value, rest) := by
  induction passes generalizing held with
  | refl text =>
      refine .of_done ?_
      simp only [round, scanfD_of_scanInteger takesSign scanned, Option.getD_some, accepted,
        ↓reduceIte]
  | space blank _ inductionHypothesis =>
      refine (inductionHypothesis unanswered scanned).of_round_eq ?_
      simp only [round, scanfD_cons_of_isSpace takesSign blank]
  | @integer text next rest other first rejected _ inductionHypothesis =>
      refine .of_again ?_ (inductionHypothesis (accepts_reset rejected) scanned)
      simp only [round, scanfD_of_scanInteger takesSign first, Option.getD_some, rejected,
        Bool.false_eq_true, ↓reduceIte]
  | @sign text rest takes none _ inductionHypothesis =>
      by_cases blank : text.dropWhile isSpace = text
      · refine .of_again ?_ (inductionHypothesis (accepts_reset unanswered) scanned)
        simp only [round, scanfD, blank, none, takes, Option.getD_none, unanswered,
          Bool.false_eq_true, ↓reduceIte]
      · have unsigned : (scanSign text).2 = text := by
          unfold scanSign
          split
          · exact absurd rfl blank
          · exact absurd rfl blank
          · rfl
        rw [unsigned] at inductionHypothesis
        exact inductionHypothesis unanswered scanned

/-- A loop ends with the first answer, and only with it. -/
theorem takes_iff {stdin rest : Text} {value : Int} :
    prompt.Takes takesSign stdin value rest ↔
      prompt.FirstAnswer takesSign stdin value rest := by
  constructor
  · intro ends
    refine Ends.induct
      (fun state result => prompt.accepts state.1 = false →
        prompt.FirstAnswer takesSign state.2 result.1 result.2)
      ?_ ?_ ends prompt.zero_rejected
    · rintro ⟨held, stdin⟩ result taken unanswered
      rcases round_cases unanswered stdin with ⟨value, rest, answer, ended⟩ | ⟨_, _, _, _, again⟩
      · obtain rfl := Round.done.inj (taken.symm.trans ended)
        exact answer
      · rw [again] at taken
        cases taken
    · rintro ⟨held, stdin⟩ ⟨next, left⟩ result taken inductionHypothesis unanswered
      rcases round_cases unanswered stdin with
        ⟨_, _, _, ended⟩ | ⟨other, next, rejected, passes, again⟩
      · rw [ended] at taken
        cases taken
      · obtain ⟨rfl, rfl⟩ := Prod.mk.inj (Round.again.inj (taken.symm.trans again))
        exact passes.firstAnswer (inductionHypothesis rejected)
  · rintro ⟨middle, passes, scanned, accepted⟩
    exact passes.ends prompt.zero_rejected scanned accepted

/-- A text has one first answer. -/
theorem FirstAnswer.unique
    {text rest left : Text} {value other : Int}
    (first : prompt.FirstAnswer takesSign text value rest)
    (second : prompt.FirstAnswer takesSign text other left) : value = other ∧ rest = left :=
  Prod.mk.inj (Ends.unique (takes_iff.mpr first) (takes_iff.mpr second))

/-- There is no answer at the end of the input. -/
theorem not_firstAnswer_nil {value : Int} {rest : Text} :
    ¬prompt.FirstAnswer takesSign [] value rest := by
  rintro ⟨middle, passes, scanned, accepted⟩
  generalize ended : ([] : Text) = text at passes
  induction passes with
  | refl _ =>
      rw [← ended] at scanned
      cases scanned
  | space _ _ _ => cases ended
  | integer first _ _ _ =>
      rw [← ended] at first
      cases first
  | sign _ _ _ inductionHypothesis =>
      refine inductionHypothesis scanned ?_
      rw [← ended]
      rfl

/-! ## Lines -/

theorem Passes.append_newline
    {text rest : Text} (passes : prompt.Passes takesSign text rest) (after : Text) :
    prompt.Passes takesSign (text ++ '\n' :: after) (rest ++ '\n' :: after) := by
  induction passes with
  | refl _ => exact .refl _
  | space blank _ inductionHypothesis => exact .space blank inductionHypothesis
  | integer scanned rejected _ inductionHypothesis =>
      refine .integer ?_ rejected inductionHypothesis
      rw [scanInteger_append_newline, scanned, Option.map_some]
  | sign takes none _ inductionHypothesis =>
      refine .sign takes (by rw [scanInteger_append_newline, none, Option.map_none]) ?_
      rwa [scanSign_append_newline]

/-- A clean line is passed. -/
theorem Clean.passes {line : Text} (clean : prompt.Clean takesSign line) (after : Text) :
    prompt.Passes takesSign (line ++ '\n' :: after) after :=
  (Passes.append_newline clean after).trans (.space rfl (.refl after))

/-- The first answer after a line break is in the line before it, or that line is
clean. -/
theorem firstAnswer_append_newline_iff {line after rest : Text} {value : Int} :
    prompt.FirstAnswer takesSign (line ++ '\n' :: after) value rest ↔
      prompt.Clean takesSign line ∧ prompt.FirstAnswer takesSign after value rest ∨
        ∃ left, prompt.FirstAnswer takesSign line value left ∧ rest = left ++ '\n' :: after := by
  constructor
  · rintro ⟨middle, passes, scanned, accepted⟩
    generalize textEq : line ++ '\n' :: after = text at passes
    induction passes generalizing line with
    | refl _ =>
        rw [← textEq, scanInteger_append_newline, Option.map_eq_some_iff] at scanned
        obtain ⟨⟨other, left⟩, inLine, same⟩ := scanned
        obtain ⟨rfl, rfl⟩ := Prod.mk.inj same
        exact .inr ⟨left, ⟨line, .refl line, inLine, accepted⟩, rfl⟩
    | @space byte text rest blank passes inductionHypothesis =>
        cases line with
        | nil =>
            obtain ⟨rfl, rfl⟩ := List.cons.inj textEq
            exact .inl ⟨.refl [], _, passes, scanned, accepted⟩
        | cons first line =>
            obtain ⟨rfl, behind⟩ := List.cons.inj textEq
            rcases inductionHypothesis scanned behind with ⟨clean, answer⟩ | ⟨left, answer, rest⟩
            · exact .inl ⟨.space blank clean, answer⟩
            · exact .inr ⟨left, (Passes.space blank (.refl line)).firstAnswer answer, rest⟩
    | integer first rejected _ inductionHypothesis =>
        rw [← textEq, scanInteger_append_newline, Option.map_eq_some_iff] at first
        obtain ⟨⟨other, left⟩, inLine, same⟩ := first
        obtain ⟨rfl, rfl⟩ := Prod.mk.inj same
        rcases inductionHypothesis scanned rfl with ⟨clean, answer⟩ | ⟨further, answer, rest⟩
        · exact .inl ⟨.integer inLine rejected clean, answer⟩
        · exact .inr
            ⟨further, (Passes.integer inLine rejected (.refl left)).firstAnswer answer, rest⟩
    | sign takes none _ inductionHypothesis =>
        rw [← textEq, scanInteger_append_newline, Option.map_eq_none_iff] at none
        rw [← textEq, scanSign_append_newline] at inductionHypothesis
        rcases inductionHypothesis scanned rfl with ⟨clean, answer⟩ | ⟨further, answer, rest⟩
        · exact .inl ⟨.sign takes none clean, answer⟩
        · exact .inr ⟨further, (Passes.sign takes none (.refl _)).firstAnswer answer, rest⟩
  · rintro (⟨clean, answer⟩ | ⟨left, ⟨middle, passes, scanned, accepted⟩, rfl⟩)
    · exact (clean.passes after).firstAnswer answer
    · refine ⟨_, passes.append_newline after, ?_, accepted⟩
      rw [scanInteger_append_newline, scanned, Option.map_some]

/-- An answer alone on its line. -/
theorem firstAnswer_line
    {line : Text} {value : Int} (scanned : scanInteger line = some (value, []))
    (accepted : prompt.accepts value = true) (after : Text) :
    prompt.FirstAnswer takesSign (line ++ '\n' :: after) value ('\n' :: after) :=
  firstAnswer_append_newline_iff.mpr (.inr ⟨[], ⟨line, .refl line, scanned, accepted⟩, rfl⟩)

/-- An answer behind the end of a line. -/
theorem FirstAnswer.newline
    {text rest : Text} {value : Int} (answer : prompt.FirstAnswer takesSign text value rest) :
    prompt.FirstAnswer takesSign ('\n' :: text) value rest :=
  (Passes.space rfl (.refl text)).firstAnswer answer

end Prompt

/-- The text of some lines. -/
def unlines (lines : List Text) : Text :=
  lines.flatMap fun line => line ++ ['\n']

theorem unlines_cons_append (line : Text) (lines : List Text) (answer : Text) :
    unlines (line :: lines) ++ answer = line ++ '\n' :: (unlines lines ++ answer) := by
  simp [unlines]

namespace Prompt

variable {takesSign : Bool} {prompt : Prompt}

/-- The first answer after some lines is behind them all, or in the first one that is
not clean. -/
theorem firstAnswer_unlines_iff {lines : List Text} {answer rest : Text} {value : Int} :
    prompt.FirstAnswer takesSign (unlines lines ++ answer) value rest ↔
      (∀ line ∈ lines, prompt.Clean takesSign line) ∧
          prompt.FirstAnswer takesSign answer value rest ∨
        ∃ before line after left, lines = before ++ line :: after ∧
          (∀ earlier ∈ before, prompt.Clean takesSign earlier) ∧
            prompt.FirstAnswer takesSign line value left ∧
              rest = left ++ '\n' :: (unlines after ++ answer) := by
  induction lines with
  | nil => simp [unlines]
  | cons line lines inductionHypothesis =>
      rw [unlines_cons_append, firstAnswer_append_newline_iff, inductionHypothesis]
      constructor
      · rintro (⟨clean, ⟨all, answered⟩ | ⟨before, other, after, left, rfl, cleanBefore, answered⟩⟩ |
          ⟨left, answered, rfl⟩)
        · exact .inl ⟨List.forall_mem_cons.mpr ⟨clean, all⟩, answered⟩
        · exact .inr ⟨line :: before, other, after, left, rfl,
            List.forall_mem_cons.mpr ⟨clean, cleanBefore⟩, answered⟩
        · exact .inr ⟨[], line, lines, left, rfl, by simp, answered, rfl⟩
      · rintro (⟨all, answered⟩ | ⟨before, other, after, left, split, cleanBefore, answered⟩)
        · obtain ⟨clean, all⟩ := List.forall_mem_cons.mp all
          exact .inl ⟨clean, .inl ⟨all, answered⟩⟩
        · cases before with
          | nil =>
              obtain ⟨rfl, rfl⟩ := List.cons.inj split
              exact .inr ⟨left, answered⟩
          | cons first before =>
              obtain ⟨rfl, rfl⟩ := List.cons.inj split
              obtain ⟨clean, cleanBefore⟩ := List.forall_mem_cons.mp cleanBefore
              exact .inl ⟨clean, .inr ⟨before, other, after, left, rfl, cleanBefore, answered⟩⟩

theorem firstAnswer_of_scanfD
    {stdin rest : Text} {value : Int} (read : scanfD takesSign stdin = (some value, rest))
    (accepted : prompt.accepts value = true) :
    prompt.FirstAnswer takesSign stdin value rest :=
  ⟨_, passes_dropWhile_isSpace stdin, scanInteger_of_scanfD read, accepted⟩

/-- A loop ends with the answer behind some lines exactly if they are clean. -/
theorem takes_unlines_iff
    {lines : List Text} {answer rest : Text} {value : Int}
    (given : scanfD takesSign answer = (some value, rest))
    (valid : prompt.accepts value = true) :
    prompt.Takes takesSign (unlines lines ++ answer) value rest ↔
      ∀ line ∈ lines, prompt.Clean takesSign line := by
  rw [takes_iff, firstAnswer_unlines_iff]
  constructor
  · rintro (⟨clean, _⟩ | ⟨before, line, after, left, _, _, _, restEq⟩)
    · exact clean
    · -- An answer in a line leaves all the lines that follow.
      have shorter := length_lt_of_scanfD given
      rw [restEq] at shorter
      simp only [List.length_append, List.length_cons] at shorter
      omega
  · exact fun clean => .inl ⟨clean, firstAnswer_of_scanfD given valid⟩

/-- It ends at all also if the first line that is not clean holds an answer. -/
theorem exists_takes_unlines_iff
    {lines : List Text} {answer rest : Text} {value : Int}
    (given : scanfD takesSign answer = (some value, rest))
    (valid : prompt.accepts value = true) :
    (∃ taken left, prompt.Takes takesSign (unlines lines ++ answer) taken left) ↔
      (∀ line ∈ lines, prompt.Clean takesSign line) ∨
        ∃ before line after, lines = before ++ line :: after ∧
          (∀ earlier ∈ before, prompt.Clean takesSign earlier) ∧
            ∃ taken left, prompt.FirstAnswer takesSign line taken left := by
  simp only [takes_iff, firstAnswer_unlines_iff]
  constructor
  · rintro ⟨taken, left, ⟨clean, _⟩ | ⟨before, line, after, further, split, clean, inLine, _⟩⟩
    · exact .inl clean
    · exact .inr ⟨before, line, after, split, clean, taken, further, inLine⟩
  · rintro (clean | ⟨before, line, after, split, clean, taken, left, inLine⟩)
    · exact ⟨value, rest, .inl ⟨clean, firstAnswer_of_scanfD given valid⟩⟩
    · exact ⟨taken, _, .inr ⟨before, line, after, left, split, clean, inLine, rfl⟩⟩

end Prompt

/-- On lines followed by a valid answer each of the three loops ends with that answer
if and only if the lines hold white space and integers that are no answers, and
nothing else.  It also ends, with an answer in the lines, if the first line that
holds anything else starts with one after such. -/
theorem prompts_end_iff (takesSign : Bool) (lines : List Text) :
    ∀ prompt ∈ [optionPrompt, categoryPrompt, amountPrompt],
      ∀ (answer rest : Text) (value : Int), scanfD takesSign answer = (some value, rest) →
        prompt.accepts value = true →
          (prompt.Takes takesSign (unlines lines ++ answer) value rest ↔
              ∀ line ∈ lines, prompt.Clean takesSign line) ∧
            ((∃ taken left, prompt.Takes takesSign (unlines lines ++ answer) taken left) ↔
              (∀ line ∈ lines, prompt.Clean takesSign line) ∨
                ∃ before line after, lines = before ++ line :: after ∧
                  (∀ earlier ∈ before, prompt.Clean takesSign earlier) ∧
                    ∃ taken left, prompt.FirstAnswer takesSign line taken left) := by
  intro prompt _ answer rest value given valid
  exact ⟨Prompt.takes_unlines_iff given valid, Prompt.exists_takes_unlines_iff given valid⟩

/-- After an integer that is no option and an empty line, the option is taken. -/
theorem prompts_end_seven :
    optionPrompt.Takes false (unlines ["7".toList, []] ++ "1\n".toList) 1 ['\n'] := by
  refine (prompts_end_iff false ["7".toList, []] optionPrompt (by simp) _ _ _ rfl rfl).1.mpr ?_
  simp only [List.forall_mem_cons, List.not_mem_nil, IsEmpty.forall_iff, implies_true, and_true]
  exact ⟨.integer rfl rfl (.refl []), .refl []⟩

/-- A letter is read again and again. -/
theorem Prompt.not_takes_behind_letter (prompt : Prompt) :
    ¬∃ value rest, prompt.Takes false (unlines ["a".toList] ++ "1\n".toList) value rest := by
  rintro ⟨value, rest, ends⟩
  refine not_ends_of_again_self ?_ ends
  have left : scanfD false (unlines ["a".toList] ++ "1\n".toList) =
      (none, unlines ["a".toList] ++ "1\n".toList) := rfl
  rw [Prompt.round, left]
  simp only [Option.getD_none, prompt.zero_rejected, Bool.false_eq_true, ↓reduceIte, ite_self]

/-- No loop comes to the answer behind it. -/
theorem not_takes_letter :
    scanfD false "1\n".toList = (some 1, ['\n']) ∧
      (optionPrompt.accepts 1 = true ∧
        ¬∃ value rest,
          optionPrompt.Takes false (unlines ["a".toList] ++ "1\n".toList) value rest) ∧
        (categoryPrompt.accepts 1 = true ∧
          ¬∃ value rest,
            categoryPrompt.Takes false (unlines ["a".toList] ++ "1\n".toList) value rest) ∧
          (amountPrompt.accepts 1 = true ∧
            ¬∃ value rest,
              amountPrompt.Takes false (unlines ["a".toList] ++ "1\n".toList) value rest) :=
  ⟨rfl, ⟨rfl, optionPrompt.not_takes_behind_letter⟩,
    ⟨rfl, categoryPrompt.not_takes_behind_letter⟩, ⟨rfl, amountPrompt.not_takes_behind_letter⟩⟩

end Refuge
