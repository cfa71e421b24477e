import Mathlib.Data.Nat.Bitwise
import Telemetry.Proofs.Stat.Contract
import Telemetry.Stat.Header

namespace Telemetry.Stat

open Wire

/-! Packing codes one after the other gives the same header as packing all of them at once, and
taking them out by their place gives the same codes as unpacking the header. -/

/-! ### Packing -/

section Slots

variable {slot : Nat}

theorem toNat_codeShift (inside : slot < 4) : (codeShift slot).toNat = 6 - 2 * slot := by
  rw [codeShift, UInt8.toNat_ofNat']
  omega

theorem toNat_and_3 (code : UInt8) : (code &&& 3).toNat = code.toNat % 4 := by
  rw [UInt8.toNat_and]
  exact Nat.and_two_pow_sub_one_eq_mod code.toNat 2

/-- Where a slot and all those behind it are clear, setting the bits of the slot is an addition. -/
theorem toNat_or_code {last : UInt8} (code : UInt8) (inside : slot < 4)
    (free : last.toNat % 2 ^ (6 - 2 * slot + 2) = 0) :
    (last ||| (code &&& 3) <<< codeShift slot).toNat =
      last.toNat + code.toNat % 4 * 2 ^ (6 - 2 * slot) := by
  have shift := toNat_codeShift inside
  have below : code.toNat % 4 * 2 ^ (6 - 2 * slot) < 2 ^ (6 - 2 * slot + 2) := by
    rw [Nat.pow_add, Nat.mul_comm]
    exact Nat.mul_lt_mul_of_pos_left (Nat.mod_lt _ (by decide)) (Nat.two_pow_pos _)
  have fits : code.toNat % 4 * 2 ^ (6 - 2 * slot) < 2 ^ 8 :=
    Nat.lt_of_lt_of_le below (Nat.pow_le_pow_right (by decide) (by omega))
  have aligned : 2 ^ (6 - 2 * slot + 2) * (last.toNat / 2 ^ (6 - 2 * slot + 2)) = last.toNat :=
    Nat.mul_div_cancel' (Nat.dvd_of_mod_eq_zero free)
  rw [UInt8.toNat_or, UInt8.toNat_shiftLeft, toNat_and_3, shift,
    Nat.mod_eq_of_lt (a := 6 - 2 * slot) (by omega), Nat.shiftLeft_eq, Nat.mod_eq_of_lt fits,
    ← aligned, ← Nat.two_pow_add_eq_or_of_lt below, aligned]

theorem or_code_eq {last packed code : UInt8} (inside : slot < 4)
    (free : last.toNat % 2 ^ (6 - 2 * slot + 2) = 0)
    (sum : packed.toNat = last.toNat + code.toNat % 4 * 2 ^ (6 - 2 * slot)) :
    last ||| (code &&& 3) <<< codeShift slot = packed := by
  rw [← UInt8.toNat_inj, toNat_or_code code inside free, sum]

variable (first second third fourth : UInt8)

theorem or_firstCode : 0 ||| (first &&& 3) <<< codeShift 0 = packByte first 0 0 0 := by
  apply or_code_eq (by decide) (by decide)
  simp only [toNat_packByte, UInt8.toNat_zero]
  omega

theorem or_secondCode :
    packByte first 0 0 0 ||| (second &&& 3) <<< codeShift 1 = packByte first second 0 0 := by
  apply or_code_eq (by decide) <;> simp only [toNat_packByte, UInt8.toNat_zero] <;> omega

theorem or_thirdCode : packByte first second 0 0 ||| (third &&& 3) <<< codeShift 2 =
    packByte first second third 0 := by
  apply or_code_eq (by decide) <;> simp only [toNat_packByte, UInt8.toNat_zero] <;> omega

theorem or_fourthCode : packByte first second third 0 ||| (fourth &&& 3) <<< codeShift 3 =
    packByte first second third fourth := by
  apply or_code_eq (by decide) <;> simp only [toNat_packByte, UInt8.toNat_zero] <;> omega

end Slots

namespace CodePacker

variable {bytes : Bytes} {count : Nat}

/-- Behind a full byte, and in front of all others, a new one begins. -/
theorem add_of_full (bytes : Bytes) (code : UInt8) (full : count % 4 = 0) :
    add ⟨bytes, count⟩ code = ⟨bytes ++ [packByte code 0 0 0], count + 1⟩ := by
  simp only [add, full, if_true, List.getLast?_concat, List.dropLast_concat, or_firstCode]

theorem add_of_open (bytes : Bytes) (last code : UInt8) (started : count % 4 ≠ 0) :
    add ⟨bytes ++ [last], count⟩ code =
      ⟨bytes ++ [last ||| (code &&& 3) <<< codeShift (count % 4)], count + 1⟩ := by
  simp only [add, started, if_false, List.getLast?_concat, List.dropLast_concat]

/-- The full bytes in front stay as they are. -/
theorem add_cons (byte code : UInt8) (started : bytes = [] → count % 4 = 0) :
    add ⟨byte :: bytes, count + 4⟩ code = ⟨byte :: (add ⟨bytes, count⟩ code).bytes, count + 5⟩ := by
  have place : (count + 4) % 4 = count % 4 := Nat.add_mod_right count 4
  by_cases full : count % 4 = 0
  · rw [add_of_full _ code (place.trans full), add_of_full _ code full]
    rfl
  · rcases List.eq_nil_or_concat' bytes with rfl | ⟨front, last, rfl⟩
    · exact absurd (started rfl) full
    · have shown := @add_of_open (count + 4) (byte :: front) last code (place.symm ▸ full)
      rw [add_of_open front last code full]
      rw [List.cons_append, place] at shown
      exact shown

/-- One more code: only the last byte of the header changes, or a new one follows it. -/
theorem add_packCodes (codes : List UInt8) (code : UInt8) :
    add ⟨packCodes codes, codes.length⟩ code =
      ⟨packCodes (codes ++ [code]), codes.length + 1⟩ := by
  fun_induction packCodes codes with
  | case1 => exact add_of_full [] code rfl
  | case2 first =>
      have added := @add_of_open 1 [] (packByte first 0 0 0) code (by decide)
      rwa [or_secondCode] at added
  | case3 first second =>
      have added := @add_of_open 2 [] (packByte first second 0 0) code (by decide)
      rwa [or_thirdCode] at added
  | case4 first second third =>
      have added := @add_of_open 3 [] (packByte first second third 0) code (by decide)
      rwa [or_fourthCode] at added
  | case5 first second third fourth others induction =>
      have started : packCodes others = [] → others.length % 4 = 0 := by
        intro empty
        have length := length_packCodes others
        rw [empty, List.length_nil] at length
        omega
      have added := add_cons (packByte first second third fourth) code started
      rwa [induction] at added

theorem foldl_add (codes : List UInt8) :
    codes.foldl add empty = ⟨packCodes codes, codes.length⟩ := by
  -- The induction is on the codes to come; those that are packed already change from step to step.
  have behind (codes added : List UInt8) : added.foldl add ⟨packCodes codes, codes.length⟩ =
      ⟨packCodes (codes ++ added), (codes ++ added).length⟩ := by
    induction added generalizing codes with
    | nil => rw [List.append_nil, List.foldl_nil]
    | cons code added induction =>
        have next := induction (codes ++ [code])
        rw [List.append_assoc, List.length_append] at next
        rw [List.foldl_cons, add_packCodes]
        exact next
  exact behind [] codes

end CodePacker

/-! ### Unpacking -/

theorem toNat_shifted_code (byte : UInt8) {slot : Nat} (inside : slot < 4) :
    (byte >>> codeShift slot &&& 3).toNat = byte.toNat / 2 ^ (6 - 2 * slot) % 4 := by
  rw [toNat_and_3, UInt8.toNat_shiftRight, toNat_codeShift inside,
    Nat.mod_eq_of_lt (a := 6 - 2 * slot) (by omega), Nat.shiftRight_eq_div_pow]

theorem unpackCodes_singleton (byte : UInt8) :
    unpackCodes [byte] = (List.range 4).map fun slot => byte >>> codeShift slot &&& 3 := by
  have small := byte.toNat_lt
  change [byte / 64, byte / 16 % 4, byte / 4 % 4, byte % 4] = [byte >>> codeShift 0 &&& 3,
    byte >>> codeShift 1 &&& 3, byte >>> codeShift 2 &&& 3, byte >>> codeShift 3 &&& 3]
  simp only [List.cons.injEq, and_true, true_and, ← UInt8.toNat_inj, UInt8.toNat_div,
    UInt8.toNat_mod, UInt8.toNat_ofNat, Nat.reducePow, Nat.reduceMod, Nat.reduceMul, Nat.reduceSub,
    toNat_shifted_code byte (by decide : 0 < 4), toNat_shifted_code byte (by decide : 1 < 4),
    toNat_shifted_code byte (by decide : 2 < 4), toNat_shifted_code byte (by decide : 3 < 4)]
  omega

/-- The code at a place of the header is at the same place of the unpacked codes. -/
theorem getElem?_unpackCodes (header : Bytes) (position : Nat) :
    (unpackCodes header)[position]? =
      header[position / 4]?.map fun byte => byte >>> codeShift (position % 4) &&& 3 := by
  induction header generalizing position with
  | nil => rfl
  | cons byte header induction =>
      have front : (unpackCodes [byte]).length = 4 := rfl
      have parts : unpackCodes (byte :: header) = unpackCodes [byte] ++ unpackCodes header := rfl
      rw [parts]
      by_cases inside : position < 4
      · rw [List.getElem?_append_left (front ▸ inside), unpackCodes_singleton, List.getElem?_map,
          List.getElem?_range inside, Nat.div_eq_of_lt inside, Nat.mod_eq_of_lt inside]
        rfl
      · have others : position / 4 = (position - 4) / 4 + 1 := by omega
        have slot : position % 4 = (position - 4) % 4 := by omega
        rw [List.getElem?_append_right (by omega), front, induction, others, slot,
          List.getElem?_cons_succ]

/-- Moving on in the header takes the first of the codes that are left. -/
theorem CodeCursor.next_eq (header : Bytes) (position : Nat) :
    next ⟨header, position⟩ = match (unpackCodes header).drop position with
      | [] => .error (.invalidFormat .statHeaderExhausted) ⟨header, position⟩
      | code :: _ => .ok code ⟨header, position + 1⟩ := by
  have place := getElem?_unpackCodes header position
  rw [next]
  cases found : header[position / 4]? with
  | none =>
      rw [found, Option.map_none, List.getElem?_eq_none_iff] at place
      rw [List.drop_eq_nil_of_le place]
  | some byte =>
      rw [found, Option.map_some] at place
      rcases List.getElem?_eq_some_iff.mp place with ⟨inside, code⟩
      rw [List.drop_eq_getElem_cons inside, code]

/-- What taking codes out of a header by their place gives: the codes in their order, zeros up to
the end of the last byte, and behind it an error that leaves the place where it is. -/
structure ReadsCodes (header : Bytes) (codes : List UInt8) : Prop where
  length_eq : header.length = (codes.length + 3) / 4
  given : ∀ position (inside : position < codes.length),
    CodeCursor.next ⟨header, position⟩ = .ok codes[position] ⟨header, position + 1⟩
  inOrder : codes.mapM (fun _ => CodeCursor.next) ⟨header, 0⟩ = .ok codes ⟨header, codes.length⟩
  filling : ∀ position, codes.length ≤ position → position < 4 * header.length →
    CodeCursor.next ⟨header, position⟩ = .ok 0 ⟨header, position + 1⟩
  exhausted : ∀ position, 4 * header.length ≤ position →
    CodeCursor.next ⟨header, position⟩ =
      .error (.invalidFormat .statHeaderExhausted) ⟨header, position⟩

theorem length_unpackCodes (header : Bytes) : (unpackCodes header).length = 4 * header.length := by
  rw [unpackCodes, List.length_flatMap]
  simp [Nat.mul_comm]

section Codes

variable {header : Bytes} {codes : List UInt8}

theorem CodeCursor.next_of_getElem? {position : Nat} {code : UInt8}
    (present : (unpackCodes header)[position]? = some code) :
    next ⟨header, position⟩ = .ok code ⟨header, position + 1⟩ := by
  rcases List.getElem?_eq_some_iff.mp present with ⟨inside, found⟩
  rw [next_eq, List.drop_eq_getElem_cons inside, found]

/-- One code after the other, from any place on. -/
theorem CodeCursor.mapM_next {position : Nat}
    (present : codes <+: (unpackCodes header).drop position) :
    codes.mapM (fun _ => next) ⟨header, position⟩ =
      .ok codes ⟨header, position + codes.length⟩ := by
  induction codes generalizing position with
  | nil => rfl
  | cons code codes induction =>
      rcases present with ⟨others, found⟩
      have first : (unpackCodes header)[position]? = some code := by
        rw [← List.head?_drop, ← found]
        rfl
      have behind : codes <+: (unpackCodes header).drop (position + 1) :=
        ⟨others, by rw [← List.drop_drop, ← found]; rfl⟩
      rw [List.mapM_cons, run_bind_of_ok (next_of_getElem? first),
        run_bind_of_ok (induction behind), List.length_cons, Nat.add_comm codes.length,
        ← Nat.add_assoc]
      rfl

theorem readsCodes_foldl_add (fit : ∀ code ∈ codes, code.toNat < 4) :
    ReadsCodes (codes.foldl CodePacker.add .empty).bytes codes := by
  rw [CodePacker.foldl_add]
  change ReadsCodes (packCodes codes) codes
  rcases unpackCodes_packCodes codes fit with ⟨filling, unpacked⟩
  have length := length_unpackCodes (packCodes codes)
  refine ⟨length_packCodes codes, fun position inside => ?_, ?_, fun position behind inside => ?_,
    fun position outside => ?_⟩
  · apply CodeCursor.next_of_getElem?
    rw [unpacked, List.getElem?_append_left inside, List.getElem?_eq_getElem inside]
  · have read := @CodeCursor.mapM_next (packCodes codes) codes 0 ⟨_, unpacked.symm⟩
    rwa [Nat.zero_add] at read
  · apply CodeCursor.next_of_getElem?
    rw [unpacked, List.length_append, List.length_replicate] at length
    rw [unpacked, List.getElem?_append_right behind, List.getElem?_replicate, if_pos (by omega)]
  · rw [CodeCursor.next_eq, List.drop_eq_nil_of_le (length ▸ outside)]

end Codes

/-! ### Two machines with one behaviour -/

section Mirrors

variable {ε σ τ α β : Type}

/-- How a run ended, with another view of the state. -/
def mapState (view : σ → τ) : EStateM.Result ε σ α → EStateM.Result ε τ α
  | .ok value state => .ok value (view state)
  | .error cause state => .error cause (view state)

/-- Seen through `view`, the one machine does what the other one does. -/
def Mirrors (view : σ → τ) (first : EStateM ε σ α) (second : EStateM ε τ α) : Prop :=
  ∀ state, second (view state) = mapState view (first state)

namespace Mirrors

variable {view : σ → τ} {first : EStateM ε σ α} {second : EStateM ε τ α}

protected theorem pure (value : α) :
    Mirrors view (pure value : EStateM ε σ α) (pure value) := fun _ => rfl

protected theorem throw (cause : ε) :
    Mirrors view (throw cause : EStateM ε σ α) (throw cause) := fun _ => rfl

protected theorem bind {next : α → EStateM ε σ β} {other : α → EStateM ε τ β}
    (mirrors : Mirrors view first second)
    (mirrorsNext : ∀ value, Mirrors view (next value) (other value)) :
    Mirrors view (first >>= next) (second >>= other) := by
  intro state
  cases ran : first state with
  | ok value after =>
      rw [run_bind_of_ok ran, run_bind_of_ok (by rw [mirrors, ran, mapState])]
      exact mirrorsNext value after
  | error cause after =>
      rw [run_bind_of_error ran, run_bind_of_error (by rw [mirrors, ran, mapState])]
      rfl

protected theorem map (transform : α → β) (mirrors : Mirrors view first second) :
    Mirrors view (transform <$> first) (transform <$> second) := by
  rw [map_eq_pure_bind, map_eq_pure_bind]
  exact mirrors.bind fun value => .pure (transform value)

theorem forM {step : β → EStateM ε σ PUnit} {other : β → EStateM ε τ PUnit}
    (mirrors : ∀ item, Mirrors view (step item) (other item)) (items : List β) :
    Mirrors view (items.forM step) (items.forM other) := by
  induction items with
  | nil => exact .pure ()
  | cons item items induction => exact (mirrors item).bind fun _ => induction

theorem mapM {step : β → EStateM ε σ α} {other : β → EStateM ε τ α}
    (mirrors : ∀ item, Mirrors view (step item) (other item)) (items : List β) :
    Mirrors view (items.mapM step) (items.mapM other) := by
  induction items with
  | nil => exact .pure []
  | cons item items induction =>
      rw [List.mapM_cons, List.mapM_cons]
      exact (mirrors item).bind fun value => induction.bind fun others => .pure (value :: others)

end Mirrors

end Mirrors

/-! ### Writing columns -/

/-- The packed form of the codes that are collected. -/
def ColumnBuffer.pack (buffer : ColumnBuffer) : ColumnPacker :=
  ⟨⟨packCodes buffer.codes, buffer.codes.length⟩, buffer.bytes⟩

namespace ColumnPacker

theorem mirrors_column {α : Type} [DecidableEq α] (cell : CellFormat α) (cells : List α) :
    Mirrors ColumnBuffer.pack (ColumnBuffer.column cell cells) (column cell cells) := by
  intro buffer
  have added := CodePacker.add_packCodes buffer.codes (Strategy.choose cell cells).code
  rw [column, ColumnBuffer.column, ColumnBuffer.pack, added]
  cases (Strategy.choose cell cells).write cell cells buffer.bytes with
  | ok _ bytes => simp [mapState, ColumnBuffer.pack]
  | error cause bytes => simp [mapState, ColumnBuffer.pack]

theorem mirrors_write (column : Column) :
    Mirrors ColumnBuffer.pack column.write (write column) := by
  cases column <;> exact mirrors_column _ _

end ColumnPacker

/-! ### Reading columns -/

/-- The codes behind the place in the header. -/
def ColumnCursor.source (cursor : ColumnCursor) : ColumnSource :=
  ⟨(unpackCodes cursor.codes.header).drop cursor.codes.position, cursor.rest⟩

namespace CursorReader

variable {α : Type}

theorem mirrors_ofReader (reader : Reader α) :
    Mirrors ColumnCursor.source (ofReader reader) (ColumnReader.ofReader reader) := by
  intro cursor
  rw [ofReader, ColumnReader.ofReader, ColumnCursor.source]
  cases reader cursor.rest <;> rfl

theorem mirrors_nextCode : Mirrors ColumnCursor.source nextCode ColumnReader.nextCode := by
  rintro ⟨⟨header, position⟩, rest⟩
  rw [nextCode, ColumnReader.nextCode, ColumnCursor.source, CodeCursor.next_eq]
  cases left : (unpackCodes header).drop position with
  | nil => rw [mapState, ColumnCursor.source, left]
  | cons code codes =>
      have behind : (unpackCodes header).drop (position + 1) = codes := by
        rw [← List.drop_drop, left, List.drop_one, List.tail_cons]
      rw [mapState, ColumnCursor.source, behind]

theorem mirrors_column (cell : CellFormat α) (count : Nat) :
    Mirrors ColumnCursor.source (column cell count) (ColumnReader.column cell count) := by
  refine mirrors_nextCode.bind fun code => ?_
  cases Strategy.ofCode code with
  | ok strategy => exact mirrors_ofReader _
  | error error => exact .throw error

/-- A reader starts at the first code. -/
theorem run_eq {reader : CursorReader α} {other : ColumnReader α}
    (mirrors : Mirrors ColumnCursor.source reader other) (header : Bytes) :
    run header reader = ColumnReader.run header other := by
  funext rest
  have same := mirrors ⟨⟨header, 0⟩, rest⟩
  rw [ColumnCursor.source, List.drop_zero] at same
  rw [run, ColumnReader.run, same]
  cases reader ⟨⟨header, 0⟩, rest⟩ <;> rfl

end CursorReader

/-! ### Columns of known kinds -/

theorem ColumnKind.mirrors_read (count : Nat) (kind : ColumnKind) :
    Mirrors ColumnCursor.source (kind.read (CursorReader.column · count))
      (kind.read (ColumnReader.column · count)) := by
  cases kind <;> exact (CursorReader.mirrors_column _ count).map _

namespace ColumnReader

/-- A column of a known kind in front of others. -/
theorem readsSet_consKind {β : Type} [DecidableEq β] {cell : CellFormat β} {cells : List β}
    {columns : List Column} {others : ColumnReader (List Column)} {count : Nat}
    (form : List β → Column) (faithful : cell.Faithful) (length : cells.length = count)
    (fits : count < 2 ^ 32) (puts : (form cells).put = putColumn cell cells)
    (reads : ReadsSet others columns columns) :
    ReadsSet (do
        let first ← form <$> column cell count
        let others ← others
        pure (first :: others))
      (form cells :: columns) (form cells :: columns) := by
  rw [bind_map_left]
  refine ReadsSet.cons faithful length fits puts fun written equal otherCodes rest => ?_
  rw [run_bind_of_ok (reads written equal otherCodes rest)]
  rfl

theorem readsSet_kinds {columns : List Column} {count : Nat} (fits : count < 2 ^ 32)
    (aligned : ∀ column ∈ columns, column.length = count) :
    ReadsSet ((columns.map Column.kind).mapM (ColumnKind.read (column · count))) columns
      columns := by
  induction columns with
  | nil => exact .nil fun _ => rfl
  | cons first columns induction =>
      rw [List.forall_mem_cons] at aligned
      rcases aligned with ⟨length, aligned⟩
      have others := induction aligned
      rw [List.map_cons, List.mapM_cons]
      cases first with
      | unsigned cells =>
          exact readsSet_consKind .unsigned CellFormat.faithful_unsigned length fits rfl others
      | signed cells =>
          exact readsSet_consKind .signed CellFormat.faithful_signed length fits rfl others
      | text cells =>
          exact readsSet_consKind .text CellFormat.faithful_text length fits rfl others

end ColumnReader

/-! ### Sets of columns -/

section Sets

variable {columns : List Column} {parts : List (Strategy × Bytes)} {count : Nat} {bytes : Bytes}

/-- What is collected once columns with these parts are written. -/
def ColumnPacker.ofParts (parts : List (Strategy × Bytes)) : ColumnPacker :=
  ColumnBuffer.pack ⟨parts.map fun part => part.1.code, parts.flatMap fun part => part.2⟩

theorem ColumnPacker.forM_write_of_ok (written : columns.mapM Column.put = .ok parts) :
    columns.forM write .empty = .ok () (ofParts parts) := by
  have mirrored := Mirrors.forM mirrors_write columns ColumnBuffer.empty
  rwa [Column.forM_write_of_ok written] at mirrored

/-- Once its columns are collected, a set is written as a whole or not at all. -/
theorem ColumnPacker.atomic_finish (written : columns.mapM Column.put = .ok parts) :
    Atomic (ofParts parts).finish (Column.putSet columns) := by
  rw [Column.putSet, written]
  exact (Atomic.value putBytes _).append _

namespace Column

theorem reads_readSet (written : putSet columns = .ok bytes) (fits : count < 2 ^ 32)
    (aligned : ∀ column ∈ columns, column.length = count) :
    (readSet (columns.map kind) count).Reads bytes columns := by
  rcases putSet_eq_ok written with ⟨header, headerBytes, columnBytes, headerWritten, rfl, reads⟩
  refine (StatBatch.reads_header headerWritten).bind ?_
  rw [CursorReader.run_eq (Mirrors.mapM (ColumnKind.mirrors_read count) _)]
  exact reads (ColumnReader.readsSet_kinds fits aligned)

/-- Columns of any kinds are read back from what is written for them, wherever it stands and
whatever is behind it. Only the header can keep a set from being written: its length field has room
for the codes of `4 * maxPrefixedLength` columns. -/
theorem readSet_finish {columns : List Column} {count : Nat} (fits : count < 2 ^ 32)
    (aligned : ∀ column ∈ columns, column.length = count)
    (writable : ∀ column ∈ columns, column.Writable) :
    (∃ packer, columns.forM ColumnPacker.write .empty = .ok () packer ∧
      (columns.length ≤ 4 * maxPrefixedLength → ∃ bytes,
        (∀ front, packer.finish front = .ok () (front ++ bytes)) ∧
        (readSet (columns.map kind) count).Reads bytes columns) ∧
      (4 * maxPrefixedLength < columns.length → ∀ front,
        packer.finish front = .error (.tooLong ((columns.length + 3) / 4)) front)) ∧
    ∀ codes : List UInt8, (∀ code ∈ codes, code.toNat < 4) →
      ReadsCodes (codes.foldl CodePacker.add .empty).bytes codes := by
  have writables : ∀ column ∈ columns, ∃ part, column.put = .ok part :=
    fun column member => exists_put_iff.mpr (writable column member)
  rcases exists_mapM_iff.mpr writables with ⟨parts, written⟩
  have length : (packCodes (parts.map fun part => part.1.code)).length =
      (columns.length + 3) / 4 := by
    rw [length_packCodes, List.length_map, length_mapM written]
  have finish := ColumnPacker.atomic_finish written
  refine ⟨⟨_, ColumnPacker.forM_write_of_ok written, fun room => ?_, fun long front => ?_⟩,
    fun codes => readsCodes_foldl_add⟩
  · have headerFits : (packCodes (parts.map fun part => part.1.code)).length ≤
        maxPrefixedLength := by
      omega
    rcases exists_putBytes_iff.mpr headerFits with ⟨header, headerWritten⟩
    have whole : putSet columns = .ok (header ++ parts.flatMap fun part => part.2) :=
      bind_eq_ok.mpr ⟨parts, written, bind_eq_ok.mpr ⟨header, headerWritten, rfl⟩⟩
    rw [whole] at finish
    exact ⟨_, finish, reads_readSet whole fits aligned⟩
  · have refused : putSet columns = .error (.tooLong ((columns.length + 3) / 4)) := by
      rw [putSet, written, ← length]
      change (putBytes _ >>= _) = _
      rw [putBytes, putLength, if_neg (by omega)]
      rfl
    rw [refused] at finish
    exact finish front

/-- Three cells in each of five columns, one constant, two plain, one in runs and one of nothing. -/
def mixedColumns : List Column :=
  [.unsigned [4, 4, 4], .signed [-1, 5, 9], .text [some "a", none, none], .unsigned [-1, -1, 1],
    .text [none, none, none]]

def mixedPacker : ColumnPacker :=
  ⟨⟨[0x81, 0x80], 5⟩, [4, 1, 10, 18, 2, 97, 1, 1, 2, 255, 255, 255, 255, 255, 255, 255, 255, 255, 1,
    1, 1, 1]⟩

theorem readSet_finish_mixedColumns :
    3 < 2 ^ 32 ∧ (∀ column ∈ mixedColumns, column.length = 3) ∧
    (∀ column ∈ mixedColumns, column.Writable) ∧ (∀ code ∈ [0, 1, 2, 1, 2], UInt8.toNat code < 4) ∧
    mixedColumns.forM ColumnPacker.write .empty = .ok () mixedPacker ∧
    (∃ bytes, (∀ front, mixedPacker.finish front = .ok () (front ++ bytes)) ∧
      (readSet [.unsigned, .signed, .text, .unsigned, .text] 3).Reads bytes mixedColumns) ∧
    ReadsCodes [0x19, 0x80] [0, 1, 2, 1, 2] := by
  have aligned : ∀ column ∈ mixedColumns, column.length = 3 := by decide
  have parts : mixedColumns.mapM put = .ok [(.constant, [4]), (.plain, [1, 10, 18]),
      (.plain, [2, 97, 1, 1]), (.runs, [2, 255, 255, 255, 255, 255, 255, 255, 255, 255, 1, 1, 1]),
      (.constant, [1])] := by
    cbv
  have writable : ∀ column ∈ mixedColumns, column.Writable := fun column member =>
    exists_put_iff.mp (exists_mapM_iff.mp ⟨_, parts⟩ column member)
  have short : ∀ code ∈ [0, 1, 2, 1, 2], UInt8.toNat code < 4 := by simp
  have collected : mixedColumns.forM ColumnPacker.write .empty = .ok () mixedPacker := by
    cbv
  have few : mixedColumns.length ≤ 4 * maxPrefixedLength := by
    rw [maxPrefixedLength]
    decide
  rcases readSet_finish (by decide) aligned writable with ⟨⟨packer, written, reads, -⟩, codes⟩
  rw [collected] at written
  cases written
  exact ⟨by decide, aligned, writable, short, collected, reads few, codes _ short⟩

end Column

end Sets

end Telemetry.Stat
