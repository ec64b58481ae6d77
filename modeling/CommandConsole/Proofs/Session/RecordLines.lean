import CommandConsole.Proofs.Json.Compact
import CommandConsole.Proofs.Records.Calls
import CommandConsole.Proofs.Table.Breaks
import CommandConsole.Records.Display
import CommandConsole.Session
import CommandConsole.Vocabulary

/-!
# Records line by line

A session shows records as a table with a line for each record, behind one for the headers and one
for the dashes. A text of a record is shown as it is, so a line feed in it breaks the line of the
record (`one_line_a_record_iff`): what stands behind the line feed can look like the line of another
record (`stored_text_forges_row`). No other value breaks a line, since its compact text has no line
feed, whatever strings are in it (`lineFeed_not_mem_display`).
-/

set_option autoImplicit false

namespace CommandConsole

/-! ## Headers -/

namespace Text

theorem ofNat_ne_lineFeed {n : Nat} (h : 10 < n) : Char.ofNat n ≠ '\n' := by
  intro heq
  by_cases hvalid : n.isValidChar
  · have hcode : Char.ofNat n = Char.ofNatAux n hvalid := dif_pos hvalid
    have hten : (Char.ofNatAux n hvalid).toNat = 10 := congrArg Char.toNat (hcode.symm.trans heq)
    exact absurd hten (Nat.ne_of_gt h)
  · have hnone : Char.ofNat n = '\x00' := dif_neg hvalid
    exact absurd (hnone.symm.trans heq) (by decide)

/-- No other character has a line feed for its capital form. -/
theorem lineFeed_not_mem_upperOf {c : Char} (hc : c ≠ '\n') : '\n' ∉ upperOf c := by
  have hwide : ∀ r ∈ CaseTable.upperWide, '\n' ∉ r.2.map Char.ofNat := by decide +kernel
  have hshift : ∀ r ∈ CaseTable.upper, 10 < (r.first : Int) + r.shift := by decide +kernel
  unfold upperOf mapped
  split
  · rename_i r hfind
    exact hwide r (List.mem_of_find?_eq_some hfind)
  · split
    · -- the row takes each of its characters to one beyond the line feed
      rename_i r hfind
      have hbeyond := hshift r (List.mem_of_find?_eq_some hfind)
      have hcovers : r.covers c.toNat = true := by simpa using List.find?_some hfind
      have hfirst : r.first ≤ c.toNat := by
        simp only [CaseTable.Shift.covers, Bool.and_eq_true, decide_eq_true_eq] at hcovers
        exact hcovers.1.1
      rw [List.mem_singleton]
      exact (ofNat_ne_lineFeed (by omega)).symm
    · simpa using hc.symm

theorem lineFeed_not_mem_toUpper {cs : List Char} (h : '\n' ∉ cs) : '\n' ∉ toUpper cs := by
  intro hmem
  obtain ⟨c, hc, hupper⟩ := List.mem_flatMap.mp hmem
  exact lineFeed_not_mem_upperOf (ne_of_mem_of_not_mem hc h) hupper

end Text

/-! ## Cells -/

namespace Records

/-- The headers of a table of records. -/
def headers (fields : Option (List String)) (records : List Json) : List String :=
  "ID" :: (columns fields records).map header

/-- The texts of a record in a table. -/
def row (fields : Option (List String)) (records : List Json) (record : Json) : List String :=
  cell record "id" :: (columns fields records).map (cell record)

/-- No name of a column and no text under one has a line feed. -/
structure Unbroken (fields : Option (List String)) (records : List Json) : Prop where
  names : ∀ name ∈ columns fields records, '\n' ∉ name.toList
  texts : ∀ record ∈ records, ∀ name ∈ "id" :: columns fields records, ∀ text,
    record.get? name = some (.str text) → '\n' ∉ text.toList

variable {fields : Option (List String)} {records : List Json} {record v : Json} {name : String}

/-- **Only a text is shown with a line feed**: other values are shown in their compact form. -/
theorem lineFeed_not_mem_display (h : ∀ text, v = .str text → '\n' ∉ text.toList) :
    '\n' ∉ (display v).toList := by
  cases v with
  | str text => exact h text rfl
  | null => decide
  | bool b =>
      cases b with
      | false => decide
      | true => exact (Json.printable_text (.bool true)).lineFeed_not_mem
  | int n => exact (Json.printable_text (.int n)).lineFeed_not_mem
  | float x => exact (Json.printable_text (.float x)).lineFeed_not_mem
  | arr items => exact (Json.printable_text (.arr items)).lineFeed_not_mem
  | obj fields => exact (Json.printable_text (.obj fields)).lineFeed_not_mem

theorem lineFeed_not_mem_cell
    (h : ∀ text, record.get? name = some (.str text) → '\n' ∉ text.toList) :
    '\n' ∉ (cell record name).toList := by
  unfold cell
  cases hvalue : record.get? name with
  | none => decide
  | some v =>
      refine lineFeed_not_mem_display fun text htext => h text ?_
      rw [hvalue, htext]

theorem lineFeed_not_mem_header (h : '\n' ∉ name.toList) : '\n' ∉ (header name).toList := by
  rw [header, String.toList_ofList]
  exact Text.lineFeed_not_mem_toUpper h

/-- Without line feeds in names and texts there are none in the table. -/
theorem Unbroken.lineFeed_not_mem (h : Unbroken fields records) :
    ∀ texts ∈ headers fields records :: records.map (row fields records), ∀ text ∈ texts,
      '\n' ∉ text.toList := by
  rw [List.forall_mem_cons, List.forall_mem_map]
  refine ⟨?_, fun record hrecord => ?_⟩
  · rw [headers, List.forall_mem_cons, List.forall_mem_map]
    exact ⟨by decide, fun name hname => lineFeed_not_mem_header (h.names name hname)⟩
  · have hcell : ∀ name ∈ "id" :: columns fields records, '\n' ∉ (cell record name).toList :=
      fun name hname => lineFeed_not_mem_cell (h.texts record hrecord name hname)
    rw [List.forall_mem_cons] at hcell
    rw [row, List.forall_mem_cons, List.forall_mem_map]
    exact hcell

end Records

/-! ## What a session shows -/

namespace Session

open Records Table

variable {s : Session} {fields : Option (List String)} {records : List Json}

/-- **When each record has one line.** A session shows records as a table, and writes the lines of
it with a line feed between each two: the headers, the dashes, and one for each record. What is
written has two lines more than there are records, and another one for each line feed that is left
in what the columns show. So it has a line for each record if and only if no line of the table is
broken, and else its lines are not those of the table. None is broken where no name of a column and
no text under one has a line feed. -/
theorem one_line_a_record_iff (s : Session) (fields : Option (List String))
    (records : List Json) :
    ∃ text widths lines,
      s.render (Records.table (.arr records) fields) =
        { s with sink := s.sink.writeEscaped text true } ∧
      Sheet true widths (headers fields records) (records.map (row fields records)) lines ∧
      text.toList = Text.join ['\n'] lines ∧
      (text.toList.splitOn '\n').length = records.length + 2 +
        ((headers fields records :: records.map (row fields records)).map (breaks widths)).sum ∧
      ((text.toList.splitOn '\n').length = records.length + 2 ↔
        ∀ texts ∈ headers fields records :: records.map (row fields records),
          breaks widths texts = 0) ∧
      ((text.toList.splitOn '\n').length = records.length + 2 ↔
        text.toList.splitOn '\n' = lines) ∧
      (Unbroken fields records → text.toList.splitOn '\n' = lines) := by
  let rows := records.map (row fields records)
  let text := Table.render (.forHost s.columns) (headers fields records) rows
  obtain ⟨widths, lines, hsheet, htext⟩ : ∃ widths lines,
      Sheet true widths (headers fields records) rows lines ∧
        text.toList = Text.join ['\n'] lines :=
    ⟨_, _, @sheet_renderLines (.forHost s.columns) rfl (headers fields records) rows,
      toList_render (.forHost s.columns) (List.cons_ne_nil _ _) rows⟩
  have hlength : lines.length = records.length + 2 := by
    rw [hsheet.length_eq, List.length_map, if_pos rfl]
  have hcount := hsheet.length_splitOn
  have hone := hsheet.length_splitOn_iff
  have hlines := hsheet.unbroken_iff
  rw [← htext, hlength] at hcount hone
  rw [← htext] at hlines
  refine ⟨text, widths, lines, rfl, hsheet, htext, hcount, hone, hone.trans hlines, fun h => ?_⟩
  exact hlines.mp fun texts htexts => breaks_eq_zero widths (h.lineFeed_not_mem texts htexts)

/-- A session on notes with these texts. -/
def onNotes (texts : List String) : Session :=
  let calls : List Records.Call := texts.map fun text =>
    .insert "note" (.obj [("text", .str text)])
  { start with backend := .records (Records.Store.empty.run calls).2 }

/-- What its backend returns when it is asked for their texts. -/
def noteRecords (texts : List String) : List Json :=
  texts.zipIdx.map fun e => .obj [("id", .ofNat (e.2 + 1)), ("text", .str e.1)]

/-- The text that is written for the records of three notes. -/
def threeNotes : String := "ID  TEXT\n--  ----------\n1   first note\n2   a\n3   b"

/-- **A stored text can break its line and forge another one.** The backend returns the records of
two notes, and what is written for them has five lines: the same ones as for three notes. -/
theorem stored_text_forges_row :
    ((onNotes ["first note", "a\n3   b"]).callBackend
        (Vocabulary.searchRequest "note" (some ["text"]) (.arr []))).1 =
        .ok (.arr (noteRecords ["first note", "a\n3   b"])) ∧
      (noteRecords ["first note", "a\n3   b"]).length = 2 ∧
      start.render (Records.table (.arr (noteRecords ["first note", "a\n3   b"])) (some ["text"])) =
        { start with sink := start.sink.writeEscaped threeNotes true } ∧
      start.render (Records.table (.arr (noteRecords ["first note", "a", "b"])) (some ["text"])) =
        { start with sink := start.sink.writeEscaped threeNotes true } ∧
      (threeNotes.toList.splitOn '\n').length = 5 := by
  have htwo : Records.table (.arr (noteRecords ["first note", "a\n3   b"])) (some ["text"]) =
      .ok (.table ["ID", "TEXT"] [["1", "first note"], ["2", "a\n3   b"]]) := by decide +kernel
  have hthree : Records.table (.arr (noteRecords ["first note", "a", "b"])) (some ["text"]) =
      .ok (.table ["ID", "TEXT"] [["1", "first note"], ["2", "a"], ["3", "b"]]) := by
    decide +kernel
  have hforged : Table.render (.forHost none) ["ID", "TEXT"]
      [["1", "first note"], ["2", "a\n3   b"]] = threeNotes := by cbv
  have hplain : Table.render (.forHost none) ["ID", "TEXT"]
      [["1", "first note"], ["2", "a"], ["3", "b"]] = threeNotes := by cbv
  refine ⟨rfl, rfl, ?_, ?_, by decide⟩
  · rw [htwo, ← hforged]
    rfl
  · rw [hthree, ← hplain]
    rfl

end Session

end CommandConsole
