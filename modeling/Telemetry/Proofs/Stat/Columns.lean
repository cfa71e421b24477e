import Telemetry.Proofs.Stat.Strategy
import Telemetry.Stat.Columns

namespace Telemetry.Stat

open Wire

/-! Reading back a set of columns. A reader of columns uses up one code of the header and the bytes
of one column at a time, so what it reads is described by both at once. -/

/-! ### Packed strategy codes -/

theorem Strategy.ofCode_code (strategy : Strategy) :
    Strategy.ofCode strategy.code = .ok strategy := by
  cases strategy <;> rfl

theorem Strategy.code_lt (strategy : Strategy) : strategy.code.toNat < 4 := by
  cases strategy <;> decide

section PackedCodes

variable {first second third fourth : UInt8}

theorem toNat_packByte (first second third fourth : UInt8) :
    (packByte first second third fourth).toNat =
      first.toNat % 4 * 64 + second.toNat % 4 * 16 + third.toNat % 4 * 4 + fourth.toNat % 4 := by
  rw [packByte, UInt8.toNat_ofNat']
  omega

theorem unpackCodes_packByte (firstFits : first.toNat < 4) (secondFits : second.toNat < 4)
    (thirdFits : third.toNat < 4) (fourthFits : fourth.toNat < 4) :
    unpackCodes [packByte first second third fourth] = [first, second, third, fourth] := by
  have byte := toNat_packByte first second third fourth
  simp only [unpackCodes, List.flatMap_cons, List.flatMap_nil, List.append_nil, List.cons.injEq,
    ← UInt8.toNat_inj, UInt8.toNat_div, UInt8.toNat_mod, UInt8.toNat_ofNat, Nat.reducePow,
    Nat.reduceMod, byte, and_true]
  omega

end PackedCodes

/-- The header gives the codes back, followed by the zeros that fill its last byte up. -/
theorem unpackCodes_packCodes (codes : List UInt8) (fit : ∀ code ∈ codes, code.toNat < 4) :
    ∃ filling, unpackCodes (packCodes codes) = codes ++ List.replicate filling 0 := by
  have zero : (0 : UInt8).toNat < 4 := by decide
  fun_induction packCodes codes with
  | case1 => exact ⟨0, rfl⟩
  | case2 first =>
      have firstFits := fit first (by simp)
      exact ⟨3, unpackCodes_packByte firstFits zero zero zero⟩
  | case3 first second =>
      have firstFits := fit first (by simp)
      have secondFits := fit second (by simp)
      exact ⟨2, unpackCodes_packByte firstFits secondFits zero zero⟩
  | case4 first second third =>
      have firstFits := fit first (by simp)
      have secondFits := fit second (by simp)
      have thirdFits := fit third (by simp)
      exact ⟨1, unpackCodes_packByte firstFits secondFits thirdFits zero⟩
  | case5 first second third fourth others induction =>
      have four := unpackCodes_packByte (fit first (by simp)) (fit second (by simp))
        (fit third (by simp)) (fit fourth (by simp))
      rcases induction fun code member => fit code (by simp [member]) with ⟨filling, unpacked⟩
      refine ⟨filling, ?_⟩
      rw [unpackCodes, List.flatMap_cons, ← unpackCodes, unpacked]
      rw [unpackCodes, List.flatMap_singleton] at four
      rw [four]
      rfl

/-! ### Reading columns -/

namespace ColumnReader

variable {α β : Type} {reader : ColumnReader α} {codes moreCodes : List UInt8}
  {bytes more : Bytes} {value : α} {result : β}

/-- The reader uses up exactly these codes and bytes, whatever stands behind either. -/
def Reads (reader : ColumnReader α) (codes : List UInt8) (bytes : Bytes) (value : α) : Prop :=
  ∀ otherCodes rest, reader ⟨codes ++ otherCodes, bytes ++ rest⟩ = .ok value ⟨otherCodes, rest⟩

theorem Reads.bind {next : α → ColumnReader β} (first : Reads reader codes bytes value)
    (second : Reads (next value) moreCodes more result) :
    Reads (reader >>= next) (codes ++ moreCodes) (bytes ++ more) result := by
  intro otherCodes rest
  rw [List.append_assoc, List.append_assoc]
  rw [run_bind_of_ok (first _ _)]
  exact second otherCodes rest

theorem reads_column [DecidableEq α] {cell : CellFormat α} (faithful : cell.Faithful)
    {cells : List α} (fits : cells.length < 2 ^ 32) {written : Strategy × Bytes}
    (columnWritten : putColumn cell cells = .ok written) :
    Reads (column cell cells.length) [written.1.code] written.2 cells := by
  rcases bind_eq_ok.mp columnWritten with ⟨bytes, bytesWritten, columnWritten⟩
  cases columnWritten
  have reads := Strategy.reads_put faithful fits (Strategy.choose_appliesTo cell cells) bytesWritten
  intro otherCodes rest
  have asked : nextCode ⟨[(Strategy.choose cell cells).code] ++ otherCodes, bytes ++ rest⟩ =
      .ok (Strategy.choose cell cells).code ⟨otherCodes, bytes ++ rest⟩ := rfl
  rw [column, run_bind_of_ok asked, Strategy.ofCode_code]
  change ofReader _ _ = _
  rw [ofReader, reads rest]

/-- The reader gets `value` from a set of columns, however each of them was laid out. -/
def ReadsSet (reader : ColumnReader α) (columns : List Column) (value : α) : Prop :=
  ∀ written, columns.mapM Column.put = .ok written →
    Reads reader (written.map fun column => column.1.code)
      (written.flatMap fun column => column.2) value

namespace ReadsSet

variable {columns : List Column}

/-- Behind the last column there is nothing left to read. -/
theorem nil (ends : ∀ source, reader source = .ok value source) : ReadsSet reader [] value := by
  intro written equal otherCodes rest
  cases equal
  exact ends ⟨otherCodes, rest⟩

theorem cons [DecidableEq β] {cell : CellFormat β} {cells : List β} {column : Column}
    {next : List β → ColumnReader α} {count : Nat} (faithful : cell.Faithful)
    (length : cells.length = count) (fits : count < 2 ^ 32)
    (puts : column.put = putColumn cell cells) (others : ReadsSet (next cells) columns value) :
    ReadsSet (ColumnReader.column cell count >>= next) (column :: columns) value := by
  intro written equal
  rcases mapM_cons_eq_ok.mp equal with ⟨first, tail, firstWritten, tailWritten, rfl⟩
  rw [puts] at firstWritten
  subst length
  exact (reads_column faithful fits firstWritten).bind (others tail tailWritten)

end ReadsSet

end ColumnReader

/-- The header in front of a set of columns tells a reader how to read them. -/
theorem Column.putSet_eq_ok {columns : List Column} {bytes : Bytes}
    (written : Column.putSet columns = .ok bytes) :
    ∃ header headerBytes columnBytes, putBytes header = .ok headerBytes ∧
      bytes = headerBytes ++ columnBytes ∧
      ∀ {α : Type} {reader : ColumnReader α} {value : α},
        ColumnReader.ReadsSet reader columns value →
          Reader.Reads (ColumnReader.run header reader) columnBytes value := by
  rcases bind_eq_ok.mp written with ⟨parts, partsWritten, written⟩
  rcases bind_eq_ok.mp written with ⟨header, headerWritten, written⟩
  cases written
  refine ⟨_, header, _, headerWritten, rfl, fun {α reader value} reads rest => ?_⟩
  have fit : ∀ code ∈ parts.map (fun column => column.1.code), code.toNat < 4 := by
    intro code member
    rcases List.mem_map.mp member with ⟨column, -, rfl⟩
    exact column.1.code_lt
  rcases unpackCodes_packCodes _ fit with ⟨filling, unpacked⟩
  rw [ColumnReader.run, unpacked, reads parts partsWritten _ rest]

end Telemetry.Stat
