import PatternMachine.Interpreter
import PatternMachine.Proofs.Action
import PatternMachine.Proofs.Regex.Anchoring

/-!
# Texts matched against regular expressions

A text pattern is a regular expression for the whole of a text. What is compiled is the text
of the pattern with anchors around it, so that this holds of every pattern that stays one
group between them: a pattern may close groups that it has opened, has to end the quotations
that it begins, and has to leave room for one more level of nesting.
-/

namespace PatternMachine
namespace Evaluator

/-- Matching a text against a text pattern takes no further step of the recursion. -/
theorem unify_text (depth : Nat) (text pattern : String) (machine : Machine) :
    (within (depth + 1)).unify .binding (.text text) (.text pattern) machine =
      unifyText text pattern machine := rfl

/-- A text pattern that is malformed by itself is refused with an error, if it is not for
closing a group that it does not open. One that is well-formed, ends its quotations and is
not nested to the limit matches the texts that it matches as a whole; matching any other
text fails. -/
theorem unify_regularExpression
    (text pattern : String)
    (machine : Machine)
    (depth : Nat) :
    (∀ problem, Regex.read pattern.toList = .error problem ->
      (∀ piece, problem ≠ .unexpectedParenthesis piece) ->
        ∃ reason, (within (depth + 1)).unify .binding (.text text) (.text pattern) machine =
          Action.raise .valueError
            ("invalid regular expression " ++ Text.quoted pattern ++ ": " ++ reason) machine) ∧
    (∀ item, Regex.read pattern.toList = .ok item ->
      Regex.QuotationsEnd pattern.toList -> item.height < Regex.heightLimit ->
        (item.expression.MatchesWhole text ->
          (within (depth + 1)).unify .binding (.text text) (.text pattern) machine =
            .ok [] machine) ∧
        (¬ item.expression.MatchesWhole text ->
          (within (depth + 1)).unify .binding (.text text) (.text pattern) machine =
            Action.raise .patternMatchFailed
              ("regular expression " ++ Text.quoted pattern ++ " did not match " ++
                Text.quoted text) machine)) := by
  rw [unify_text]
  unfold unifyText
  constructor
  · intro problem refused opened
    obtain ⟨other, compiled⟩ := Regex.compile?_of_refused refused opened
    rw [compiled]
    exact ⟨other.message, rfl⟩
  · intro item read quotes low
    rw [Regex.compile?_of_read quotes low read]
    dsimp only
    constructor
    · intro whole
      rw [if_pos ((Regex.Expression.accepts_anchored _ _).mpr whole)]
      rfl
    · intro part
      rw [if_neg (mt (Regex.Expression.accepts_anchored _ _).mp part)]
      rfl

/-- The expression of a pattern with a quotation: a parenthesis or a letter. -/
def quotedParenthesis : Regex.Item :=
  let code (code : Nat) := Regex.Expression.one { items := [{ ranges := [(code, code)] }] }
  { expression := .either (code 41) (code 98), height := 2 }

theorem quotationsEnd_quotedParenthesis : Regex.QuotationsEnd "\\Q)\\E|b".toList := by
  intro reader quotation comes
  rcases comes.here_or_after rfl with same | comes
  · obtain rfl : quotation = [')', '\\', 'E', '|', 'b'] := by
      injection same with _ same
      injection same
    exact ⟨[')'], ['|', 'b'], rfl⟩
  rcases comes.here_or_after rfl with same | comes
  · cases same
  rcases comes.here_or_after rfl with same | comes
  · cases same
  cases comes

/-- A pattern that opens a group is refused. A letter matches the pattern with a quotation,
and a parenthesis with the letter does not. -/
theorem unify_regularExpression_of_quotation :
    let machine := Machine.fresh Store.initial
    (∃ reason, (within 1).unify .binding (.text "b") (.text "(b") machine =
      Action.raise .valueError
        ("invalid regular expression " ++ Text.quoted "(b" ++ ": " ++ reason) machine) ∧
    (within 1).unify .binding (.text "b") (.text "\\Q)\\E|b") machine = .ok [] machine ∧
    (within 1).unify .binding (.text ")b") (.text "\\Q)\\E|b") machine =
      Action.raise .patternMatchFailed
        ("regular expression " ++ Text.quoted "\\Q)\\E|b" ++ " did not match " ++
          Text.quoted ")b") machine := by
  intro machine
  have read : Regex.read "\\Q)\\E|b".toList = .ok quotedParenthesis := rfl
  have low : quotedParenthesis.height < Regex.heightLimit := by decide
  have whole : quotedParenthesis.expression.MatchesWhole "b" := .inr ⟨rfl, 'b', rfl, rfl⟩
  have part : ¬ quotedParenthesis.expression.MatchesWhole ")b" := by
    rintro (⟨short, _⟩ | ⟨short, _⟩) <;> cases short
  refine ⟨?_, ?_, ?_⟩
  · exact (unify_regularExpression "b" "(b" machine 0).1 (.missingParenthesis "(b") rfl nofun
  · exact ((unify_regularExpression "b" _ machine 0).2 _ read quotationsEnd_quotedParenthesis
      low).1 whole
  · exact ((unify_regularExpression ")b" _ machine 0).2 _ read quotationsEnd_quotedParenthesis
      low).2 part

end Evaluator
end PatternMachine
