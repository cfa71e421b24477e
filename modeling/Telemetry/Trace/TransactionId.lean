import Telemetry.Wire.Sequence

namespace Telemetry.Trace

open Wire

/-! Transaction ids: one transaction of one run of one agent. An id has a text form
`agent^start^sequence` and a binary form. The text is taken apart from its end, so an agent id may
hold the delimiter itself. -/

structure TransactionId where
  agentId : String
  agentStartTime : Int64
  sequence : Int64
deriving DecidableEq, Repr, Inhabited

namespace TransactionId

def delimiter : Char := '^'

/-- The characters before and after the last delimiter. -/
def splitLast : List Char → Option (List Char × List Char)
  | [] => none
  | character :: rest =>
      match splitLast rest with
      | some (before, after) => some (character :: before, after)
      | none => if character = delimiter then some ([], rest) else none

def renderInt64 (value : Int64) : List Char := Text.renderInteger value.toInt

def parseInt64 (whole part : List Char) : Except EncodeError Int64 :=
  match Text.parseInteger Int64.minValue.toInt Int64.maxValue.toInt part with
  | .ok value => .ok (Int64.ofInt value)
  | .error cause => .error (.invalidValue
      (.transactionNumber (String.ofList whole) (String.ofList part) cause))

def render (id : TransactionId) : String :=
  String.ofList (id.agentId.toList ++ delimiter :: renderInt64 id.agentStartTime ++
    delimiter :: renderInt64 id.sequence)

/-- Reads the text form. An empty agent id is reported before a bad number, and a bad start time
before a bad sequence. -/
def parse (text : String) : Except EncodeError TransactionId :=
  let whole := text.toList
  match splitLast whole with
  | none => .error (.invalidValue (.malformedTransactionId text))
  | some (front, sequence) =>
      match splitLast front with
      | none => .error (.invalidValue (.malformedTransactionId text))
      | some (agentId, start) =>
          if agentId.isEmpty then .error (.invalidValue (.transactionWithoutAgent text))
          else do
            let start ← parseInt64 whole start
            let sequence ← parseInt64 whole sequence
            pure ⟨String.ofList agentId, start, sequence⟩

/-- The binary form: the agent id behind its length, then both numbers as unsigned varints. -/
def put (id : TransactionId) : Except EncodeError Bytes := do
  let agentId ← putText id.agentId
  pure (agentId ++ putVlong id.agentStartTime.toUInt64 ++ putVlong id.sequence.toUInt64)

def read : Reader TransactionId := do
  let agentId ← Reader.text "transaction agent id"
  let agentStartTime ← Reader.vlong
  let sequence ← Reader.vlong
  pure ⟨agentId, agentStartTime.toInt64, sequence.toInt64⟩

end TransactionId

end Telemetry.Trace
