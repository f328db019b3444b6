import L2tpns.Foundation.CText

/-! # Words of command lines

Words as the command line library hands them to a command, how a word abbreviates a keyword,
and lines that are printed word by word. Words are texts without a NUL.
-/

namespace L2tpns.Cli

open Foundation.CText

abbrev Word := List Char

/-- `MATCH`: the word abbreviates the keyword. -/
def isMatch (keyword : String) (word : Word) : Bool := word.isPrefixOf keyword.toList

/-- A message about a word. -/
def quoting (text : String) (word : Word) : String := text ++ " \"" ++ String.ofList word ++ "\""

theorem isMatch_digit {keyword : String} {word : Word} (digit : word.head?.any Char.isDigit)
    (letter : keyword.toList.head?.all (fun c => !c.isDigit)) : isMatch keyword word = false := by
  unfold isMatch
  cases word with
  | nil => simp at digit
  | cons c word =>
      cases letters : keyword.toList with
      | nil => rfl
      | cons k letters' =>
          rw [letters] at letter
          have other : c ≠ k := by
            rintro rfl
            simp at digit letter
            simp [digit] at letter
          simp [List.isPrefixOf, other]

theorem inetNtoa_digit (addr : UInt32) : (inetNtoa addr).head?.any Char.isDigit := by
  simp only [inetNtoa, List.append_assoc]
  exact head_decimal _ _

/-- The words of a text that starts each of them with a blank. -/
def spaced (words : List Word) : List Char := words.flatMap (' ' :: ·)

@[simp]
theorem spaced_nil : spaced [] = [] := rfl

@[simp]
theorem spaced_cons (word : Word) (words : List Word) :
    spaced (word :: words) = ' ' :: word ++ spaced words := by
  simp [spaced]

@[simp]
theorem spaced_append (words more : List Word) :
    spaced (words ++ more) = spaced words ++ spaced more := by
  simp [spaced]

/-- A word that stands between blanks and asks for no help. -/
def Plain (word : Word) : Prop := IsWord word ∧ '?' ∉ word

instance (word : Word) : Decidable (Plain word) := inferInstanceAs (Decidable (_ ∧ _))

theorem not_digit_mark : ¬ '?'.isDigit := by decide

theorem plain_decimal (n : Nat) : Plain (decimal n) :=
  ⟨isWord_decimal n, fun mark => not_digit_mark (decimal_isDigit mark)⟩

theorem plain_inetNtoa (addr : UInt32) : Plain (inetNtoa addr) := by
  refine ⟨isWord_inetNtoa addr, fun mark => ?_⟩
  simp only [inetNtoa, List.append_assoc, List.cons_append, List.mem_append, List.mem_cons] at mark
  rcases mark with digit | dot | digit | dot | digit | dot | digit
  all_goals first | exact not_digit_mark (decimal_isDigit digit) | exact absurd dot (by decide)

/-- `CLI_HELP_REQUESTED`: the last argument ends in a question mark. -/
def cliHelpRequested (argv : List Word) : Bool := (argv.getLast?.bind List.getLast?) = some '?'

/-- Help is asked for only where some argument has a question mark. -/
def AsksByMark (helpRequested : List Word → Bool) : Prop :=
  ∀ argv, helpRequested argv = true → ∃ word ∈ argv, '?' ∈ word

theorem cliHelpRequested_asks : AsksByMark cliHelpRequested := by
  intro argv asks
  simp only [cliHelpRequested, decide_eq_true_eq, Option.bind_eq_some_iff] at asks
  obtain ⟨word, last, mark⟩ := asks
  exact ⟨word, List.mem_of_getLast? last, List.mem_of_getLast? mark⟩

end L2tpns.Cli
