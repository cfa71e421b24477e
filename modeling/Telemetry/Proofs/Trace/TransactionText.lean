import Telemetry.Proofs.Text.Decimal
import Telemetry.Proofs.Wire.Reading
import Telemetry.Trace.TransactionId

namespace Telemetry.Trace.TransactionId

open Wire Text

/-! The text form of transaction ids. A number holds no delimiter, so the last two delimiters are
where the numbers begin, whatever the agent id looks like. Numbers may be spelled with a sign and
with leading zeros; the id they give is the same. -/

/-- The last two delimiters leave an agent id to their left and decimal integers between and behind
them. -/
structure Shows (text : String) (id : TransactionId) : Prop where
  agent : id.agentId ≠ ""
  parts : ∃ start sequence,
    text.toList = id.agentId.toList ++ delimiter :: start ++ delimiter :: sequence ∧
    delimiter ∉ start ∧ delimiter ∉ sequence ∧
    Denotes start id.agentStartTime.toInt ∧ Denotes sequence id.sequence.toInt

/-! ### Taking a text apart -/

theorem splitLast_eq_none {text : List Char} : splitLast text = none ↔ delimiter ∉ text := by
  induction text with
  | nil => simp [splitLast]
  | cons character rest induction =>
      rw [splitLast, List.mem_cons, not_or, ← induction]
      cases split : splitLast rest with
      | some parts => simp
      | none =>
          by_cases found : character = delimiter
          · simp [found]
          · simp [found, Ne.symm found]

theorem splitLast_append {before after : List Char} (absent : delimiter ∉ after) :
    splitLast (before ++ delimiter :: after) = some (before, after) := by
  induction before with
  | nil => rw [List.nil_append, splitLast, splitLast_eq_none.mpr absent, if_pos rfl]
  | cons character before induction => rw [List.cons_append, splitLast, induction]

theorem splitLast_eq_some {text before after : List Char} :
    splitLast text = some (before, after) ↔
      text = before ++ delimiter :: after ∧ delimiter ∉ after := by
  refine ⟨fun found => ?_, fun ⟨parts, absent⟩ => parts ▸ splitLast_append absent⟩
  induction text generalizing before with
  | nil => cases found
  | cons character rest induction =>
      rw [splitLast] at found
      cases split : splitLast rest with
      | some parts =>
          rw [split] at found
          cases found
          rcases induction split with ⟨rfl, absent⟩
          exact ⟨rfl, absent⟩
      | none =>
          rw [split] at found
          rcases Option.ite_none_right_eq_some.mp found with ⟨rfl, found⟩
          cases found
          exact ⟨rfl, splitLast_eq_none.mp split⟩

/-! ### Numbers -/

theorem parseInt64_eq_ok {whole part : List Char} {number : Int64} :
    parseInt64 whole part = .ok number ↔ Denotes part number.toInt := by
  have read (value : Int) := @parseInteger_eq_ok Int64.minValue.toInt Int64.maxValue.toInt value
    part (by decide) (by decide)
  constructor
  · intro found
    rw [parseInt64] at found
    split at found
    next value parsed =>
      cases found
      rcases (read value).mp parsed with ⟨denotes, low, high⟩
      rwa [Int64.toInt_ofInt_of_le low (Int.lt_add_one_of_le high)]
    next => cases found
  · intro denotes
    have parsed := (read number.toInt).mpr ⟨denotes, number.minValue_le_toInt, number.toInt_le⟩
    rw [parseInt64, parsed]
    exact congrArg Except.ok (Int64.ofInt_toInt number)

theorem delimiter_notMem {text : List Char} {value : Int} (denotes : Denotes text value) :
    delimiter ∉ text := by
  intro member
  rcases denotes.isDigit_or_sign delimiter member with digit | sign | sign
  · exact absurd digit (by decide)
  · exact absurd sign (by decide)
  · exact absurd sign (by decide)

/-! ### The text form -/

theorem parse_eq_ok_iff {text : String} {id : TransactionId} :
    parse text = .ok id ↔ Shows text id := by
  constructor
  · intro parsed
    rw [parse] at parsed
    split at parsed
    next => cases parsed
    next front sequence last =>
      split at parsed
      next => cases parsed
      next agentId start middle =>
        rcases splitLast_eq_some.mp last with ⟨whole, noneAfter⟩
        rcases splitLast_eq_some.mp middle with ⟨rfl, noneBetween⟩
        split at parsed
        next => cases parsed
        next present =>
          rcases bind_eq_ok.mp parsed with ⟨time, timeRead, parsed⟩
          rcases bind_eq_ok.mp parsed with ⟨number, numberRead, parsed⟩
          cases parsed
          refine ⟨by simpa using present, start, sequence, ?_, noneBetween, noneAfter,
            parseInt64_eq_ok.mp timeRead, parseInt64_eq_ok.mp numberRead⟩
          rw [whole, String.toList_ofList]
  · rintro ⟨agent, start, sequence, parts, noneBetween, noneAfter, time, number⟩
    have last : splitLast text.toList =
        some (id.agentId.toList ++ delimiter :: start, sequence) :=
      splitLast_eq_some.mpr ⟨parts, noneAfter⟩
    have middle : splitLast (id.agentId.toList ++ delimiter :: start) =
        some (id.agentId.toList, start) := splitLast_append noneBetween
    have present : id.agentId.toList.isEmpty = false := by simpa using agent
    rw [parse, last]
    dsimp only
    rw [middle]
    dsimp only
    rw [present, if_neg Bool.false_ne_true, parseInt64_eq_ok.mpr time, parseInt64_eq_ok.mpr number]
    exact congrArg Except.ok (by rw [String.ofList_toList])

/-- An id shows in the text that it is written as. -/
theorem shows_render {id : TransactionId} (agent : id.agentId ≠ "") : Shows id.render id where
  agent := agent
  parts := by
    have time := denotes_renderInteger id.agentStartTime.toInt
    have number := denotes_renderInteger id.sequence.toInt
    refine ⟨_, _, ?_, delimiter_notMem time, delimiter_notMem number, time, number⟩
    rw [render, String.toList_ofList]
    rfl

/-- Ids of agents that have a name come back from their text. Exactly the texts whose last two
delimiters leave an agent id and two decimal integers of 64 bits are read, each as the id it shows,
and what was read comes back from its own text. -/
theorem text_readsBack :
    (∀ id : TransactionId, id.agentId ≠ "" → parse id.render = .ok id) ∧
      (∀ text id, parse text = .ok id ↔ Shows text id) ∧
      ∀ text id, parse text = .ok id → parse id.render = .ok id := by
  refine ⟨fun id agent => ?_, fun text id => parse_eq_ok_iff, fun text id parsed => ?_⟩
  · exact parse_eq_ok_iff.mpr (shows_render agent)
  · exact parse_eq_ok_iff.mpr (shows_render (parse_eq_ok_iff.mp parsed).agent)

/-- An agent id that looks like the end of another id, and numbers that are not spelled as they are
written. -/
theorem text_readsBack_nestedText :
    "a^7^" ≠ "" ∧
      parse (render ⟨"a^7^", Int64.minValue, Int64.maxValue⟩) =
        .ok ⟨"a^7^", Int64.minValue, Int64.maxValue⟩ ∧
      parse "a^7^^-00^+042" = .ok ⟨"a^7^", 0, 42⟩ ∧
      parse (render ⟨"a^7^", 0, 42⟩) = .ok ⟨"a^7^", 0, 42⟩ := by
  have parsed : parse "a^7^^-00^+042" = .ok ⟨"a^7^", 0, 42⟩ := by rfl
  exact ⟨by decide, text_readsBack.1 ⟨"a^7^", _, _⟩ (by decide), parsed,
    text_readsBack.2.2 _ _ parsed⟩

end Telemetry.Trace.TransactionId
