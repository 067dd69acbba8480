import AsmGloss.Output.Format
import AsmGloss.Proofs.Attempts
import AsmGloss.Proofs.Text.Pieces
import AsmGloss.Proofs.Text.SystemText

/-!
# Files of drafts

A draft whose pieces are texts makes the file of the text that they join to.
Only the name of a listing may hold stray bytes, so only the two formats that
show it can have a piece that cannot be encoded: the one with the name.
-/

namespace AsmGloss

namespace Draft

/-- Pieces that are texts make the file of all of them. -/
theorem content_pieces_ofString (texts : List String) :
    (pieces (texts.map .ofString)).content =
      .ok (.ofText (String.join texts)) := by
  have encoded : (texts.map SystemText.ofString).mapM
      (fun text => text.encode.mapError OutputError.unencodable) =
        .ok (texts.map fun text => Text.Utf8.encode text.toList) := by
    rw [List.mapM_map]
    refine Except.mapM_eq_ok_map fun text _ => ?_
    rw [Function.comp_apply, SystemText.encode_ofString]
    rfl
  rw [content, encoded, Content.ofText, String.toList_join, Text.Utf8.encode,
    List.flatMap_assoc]
  rfl

theorem content_piece_ofString (text : String) :
    (pieces [.ofString text]).content = .ok (.ofText text) := by
  have joined := content_pieces_ofString [text]
  have alone : String.join [text] = text := by simp
  rwa [alone] at joined

theorem exists_bytes {texts : List SystemText} {content : Content}
    (makes : (pieces texts).content = .ok content) :
    ∃ data, content = .bytes data := by
  obtain ⟨encoded, _, same⟩ := Except.bind_eq_ok_iff.mp makes
  cases same
  exact ⟨_, rfl⟩

/-- The first piece comes in front of what the others make. -/
theorem exists_of_content_cons {text : SystemText} {texts : List SystemText}
    {data : List UInt8}
    (makes : (pieces (text :: texts)).content = .ok (.bytes data)) :
    ∃ first more, text.encode = .ok first ∧
      (pieces texts).content = .ok (.bytes more) ∧ first ++ more = data := by
  obtain ⟨encoded, encodes, same⟩ := Except.bind_eq_ok_iff.mp makes
  rw [List.mapM_cons] at encodes
  obtain ⟨first, begins, encodes⟩ := Except.bind_eq_ok_iff.mp encodes
  obtain ⟨more, ends, joined⟩ := Except.bind_eq_ok_iff.mp encodes
  cases joined
  cases same
  refine ⟨first, more.flatten, ?_,
    Except.bind_eq_ok_iff.mpr ⟨more, ends, rfl⟩, rfl⟩
  cases found : text.encode with
  | error stray =>
      rw [found] at begins
      cases begins
  | ok data =>
      rw [found] at begins
      cases begins
      rfl

/-- A piece of a draft cannot be encoded, and those before it make a text. -/
def Breaks (draft : Draft) (before : String) (found : StrayRun) : Prop :=
  ∃ texts text rest,
    draft = .pieces (texts.map .ofString ++ text :: rest) ∧
      String.join texts = before ∧ text.encode = .error found

theorem Breaks.content_eq {draft : Draft} {before : String} {found : StrayRun}
    (breaks : draft.Breaks before found) :
    draft.content = .error (.unencodable found) := by
  obtain ⟨texts, text, rest, rfl, -, fails⟩ := breaks
  have stops : (texts.map SystemText.ofString ++ text :: rest).mapM
      (fun text => text.encode.mapError OutputError.unencodable) =
        .error (.unencodable found) := by
    induction texts with
    | nil =>
        rw [List.map_nil, List.nil_append, List.mapM_cons, fails]
        rfl
    | cons first texts induction =>
        rw [List.map_cons, List.cons_append, List.mapM_cons, induction,
          SystemText.encode_ofString]
        rfl
  rw [content, stops]
  rfl

end Draft

namespace Markdown

/-- A table under a title. -/
def under (title table : String) : String :=
  if title = "" then table else "# " ++ title ++ "\n\n" ++ table

theorem titled_ofString (title table : String) :
    titled title table = .ofString (under title table) := by
  rw [titled, under]
  by_cases empty : title = ""
  · rw [if_pos empty, if_pos (by rw [empty]; rfl)]
  · have filled : SystemText.ofString title ≠ [] :=
      fun nothing => empty (SystemText.ofString_injective nothing)
    rw [if_neg empty, if_neg filled]
    simp only [SystemText.ofString_append]

/-- A title only comes in front of its table. -/
theorem text_titled (headings : List String) (records : List Record)
    (title : String) :
    text headings records (some title) =
      (text headings records none).map (under title) := by
  rw [text, text]
  cases records.mapM fun record =>
      return row ((← record.cells headings).map escape) with
  | error error => rfl
  | ok rows =>
      simp only [bind, Except.bind, pure, Except.pure, Except.map, titleLines,
        under, List.nil_append, Except.ok.injEq]
      split
      · rw [List.nil_append]
      · apply String.toList_injective
        rw [intercalate_feed (by simp), String.toList_append,
          intercalate_feed (by simp)]
        simp

theorem titled_of_stray {title : SystemText} (stray : title.text? = none)
    (table : String) : SystemText.text? (titled title table) = none := by
  have filled : title ≠ [] := by
    rintro rfl
    cases stray
  simp [titled, if_neg filled, SystemText.text?_append_eq_none_iff, stray]

end Markdown

namespace Json

theorem sourceText_ofString (source : String) :
    sourceText source = .ofString (.ofList (JsonValue.stringText source)) := by
  rw [sourceText, SystemText.ofString, SystemText.ofString,
    String.toList_ofList, SystemText.ofChars, List.flatMap_map]
  simp [SystemText.ofChars, JsonValue.stringText, List.map_flatMap]

theorem sourceText_of_stray {source : SystemText}
    (stray : source.text? = none) :
    SystemText.text? (sourceText source) = none := by
  obtain ⟨low, member⟩ := SystemText.text?_eq_none_iff.mp stray
  refine SystemText.text?_eq_none_iff.mpr ⟨low, ?_⟩
  rw [sourceText, List.mem_append]
  exact .inl (List.mem_cons_of_mem _
    (List.mem_flatMap.mpr ⟨_, member, List.mem_singleton_self _⟩))

/-- The pieces of a document for a name that is a text join to the document. -/
theorem pieces_ofString (source family : String) (records : List Record) :
    ∃ texts, pieces source family records = texts.map .ofString ∧
      String.join texts = (JsonValue.ofRecords source family records).text := by
  let rest := JsonValue.renderMembers 1 (JsonValue.members family records)
    ++ JsonValue.newLine 0 ++ ['\x7d']
  refine ⟨[.ofList opening, .ofList (JsonValue.stringText source),
    .ofList rest], ?_, ?_⟩
  · rw [pieces, sourceText_ofString]
    simp [SystemText.ofString, rest]
  · apply String.toList_injective
    rw [String.toList_join, JsonValue.text, JsonValue.ofRecords,
      JsonValue.render]
    simp [rest, opening, JsonValue.render]

end Json

namespace Workbook

/-- Whether a sheet has a row for each of some records. -/
def Fits (headings : List String) (records : List Record) : Prop :=
  headings = [] ∨ records.length < Spreadsheet.rowLimit

theorem fitted_eq_ok_iff {family : String} {headings : List String}
    {records : List Record} {workbook : Workbook} :
    fitted family headings records = .ok workbook ↔
      ofRecords family headings records = .ok workbook ∧
        Fits headings records := by
  have fits_iff : Fits headings records ↔
      ¬room headings records < records.length := by
    rw [Fits, room, Spreadsheet.rowLimit]
    cases headings with
    | nil => simp
    | cons heading headings => simp; omega
  rw [fitted, fits_iff]
  by_cases exceeds : room headings records < records.length
  · cases ofRecords family headings
        (records.take (room headings records)) <;>
      simp [exceeds, bind, Except.bind, throw, throwThe, MonadExceptOf.throw]
  · rw [List.take_of_length_le (Nat.le_of_not_lt exceeds)]
    cases ofRecords family headings records <;>
      simp [exceeds, bind, Except.bind, pure, Except.pure]

end Workbook

namespace Format

section Contents

variable (profile : Profile) (records : List Record)

/-- But for a workbook, the file is that of the draft. -/
theorem content_of_plain {format : Format} (plain : format ≠ .xlsx)
    (source : SystemText) :
    format.content profile source records =
      format.draft profile source records >>= Draft.content := by
  cases format with
  | xlsx => exact absurd rfl plain
  | _ => rfl

theorem content_txt (source : SystemText) :
    txt.content profile source records =
      (Table.text profile.columns records).map .ofText := by
  rw [content_of_plain profile records (by decide), draft]
  cases Table.text profile.columns records with
  | error error => rfl
  | ok table => exact Draft.content_piece_ofString table

theorem content_csv (source : SystemText) :
    csv.content profile source records =
      .ok (.ofText (Csv.text profile.columns records)) :=
  Draft.content_pieces_ofString (Csv.pieces profile.columns records)

theorem content_json (source : String) :
    json.content profile source records =
      .ok (.ofText (JsonValue.ofRecords source profile.name records).text) := by
  obtain ⟨texts, pieces, joined⟩ :=
    Json.pieces_ofString source profile.name records
  have drafted : json.draft profile source records =
      .ok (.pieces (Json.pieces source profile.name records)) := rfl
  rw [content_of_plain profile records (by decide), drafted, pieces, ← joined]
  exact Draft.content_pieces_ofString texts

theorem content_md (source : String) :
    md.content profile source records =
      (Markdown.text profile.columns records (some source)).map .ofText := by
  rw [content_of_plain profile records (by decide), draft, Markdown.text_titled]
  cases Markdown.text profile.columns records none with
  | error error => rfl
  | ok table =>
      have piece := Draft.content_piece_ofString (Markdown.under source table)
      rwa [← Markdown.titled_ofString] at piece

end Contents

/-- What a file holds before the name of its listing. -/
def opening : Format → String
  | json => .ofList Json.opening
  | _ => ""

/-- Whether a format shows the name of the listing. -/
def showsName : Format → Bool
  | json | md => true
  | _ => false

variable {format : Format} {profile : Profile} {source : SystemText}
variable {records : List Record} {draft : Draft}

/-- A draft that shows a name with stray bytes breaks at the name. -/
theorem breaks_of_stray (shows : format.showsName = true)
    (stray : source.text? = none)
    (drafts : format.draft profile source records = .ok draft) :
    ∃ found, draft.Breaks format.opening found := by
  cases format with
  | txt | csv | xlsx => cases shows
  | json =>
      cases drafts
      exact ⟨_, [opening .json], _, _, rfl, by simp,
        SystemText.encode_of_stray (Json.sourceText_of_stray stray)⟩
  | md =>
      obtain ⟨table, _, same⟩ := Except.bind_eq_ok_iff.mp drafts
      cases same
      exact ⟨_, [], _, [], rfl, rfl,
        SystemText.encode_of_stray (Markdown.titled_of_stray stray table)⟩

/-- Any other draft makes the file. -/
theorem makes_of_plain
    (plain : format.showsName = true → source.text? ≠ none)
    (drafts : format.draft profile source records = .ok draft) :
    ∃ content, draft.content = .ok content ∧
      format.content profile source records = .ok content := by
  have made {content : Content} (text : format ≠ .xlsx)
      (makes : draft.content = .ok content) :
      ∃ content, draft.content = .ok content ∧
        format.content profile source records = .ok content := by
    refine ⟨content, makes, ?_⟩
    rw [content_of_plain profile records text, drafts]
    exact makes
  cases format with
  | txt =>
      obtain ⟨table, _, same⟩ := Except.bind_eq_ok_iff.mp drafts
      cases same
      exact made (by decide) (Draft.content_piece_ofString table)
  | csv =>
      cases drafts
      exact made (by decide) (Draft.content_pieces_ofString _)
  | xlsx =>
      obtain ⟨sheet, fitted, same⟩ := Except.bind_eq_ok_iff.mp drafts
      cases same
      refine ⟨_, rfl, ?_⟩
      rw [content, (Workbook.fitted_eq_ok_iff.mp fitted).1]
      rfl
  | json =>
      obtain ⟨text, rfl⟩ := SystemText.exists_of_text?_ne_none (plain rfl)
      cases drafts
      obtain ⟨texts, pieces, _⟩ :=
        Json.pieces_ofString text profile.name records
      rw [pieces] at made ⊢
      exact made (by decide) (Draft.content_pieces_ofString texts)
  | md =>
      obtain ⟨text, rfl⟩ := SystemText.exists_of_text?_ne_none (plain rfl)
      obtain ⟨table, _, same⟩ := Except.bind_eq_ok_iff.mp drafts
      cases same
      rw [Markdown.titled_ofString] at made ⊢
      exact made (by decide) (Draft.content_piece_ofString _)

/-- A file that shows the name of its listing shows a text. -/
theorem text?_ne_none_of_content {content : Content}
    (shows : format.showsName = true)
    (makes : format.content profile source records = .ok content) :
    source.text? ≠ none := by
  intro stray
  have plain : format ≠ .xlsx := by
    rintro rfl
    cases shows
  rw [content_of_plain profile records plain] at makes
  obtain ⟨draft, drafts, makes⟩ := Except.bind_eq_ok_iff.mp makes
  obtain ⟨found, breaks⟩ := breaks_of_stray shows stray drafts
  rw [breaks.content_eq] at makes
  cases makes

theorem draft_xlsx_eq_ok_iff {sheet : Workbook} :
    xlsx.draft profile source records = .ok (.workbook sheet) ↔
      Workbook.fitted profile.name profile.columns records = .ok sheet := by
  rw [Format.draft]
  cases Workbook.fitted profile.name profile.columns records <;>
    simp [bind, Except.bind, pure, Except.pure]

theorem fits_of_draft (sheet : format = .xlsx)
    (drafts : format.draft profile source records = .ok draft) :
    Workbook.Fits profile.columns records := by
  subst sheet
  obtain ⟨_, fitted, _⟩ := Except.bind_eq_ok_iff.mp drafts
  exact (Workbook.fitted_eq_ok_iff.mp fitted).2

/-- What can be shown has a draft, if a sheet is not too long. -/
theorem exists_draft {content : Content}
    (shows : format.content profile source records = .ok content)
    (fits : format = .xlsx → Workbook.Fits profile.columns records) :
    ∃ draft, format.draft profile source records = .ok draft ∧
      draft.content = .ok content := by
  by_cases sheet : format = .xlsx
  · subst sheet
    obtain ⟨workbook, built, same⟩ := Except.bind_eq_ok_iff.mp shows
    cases same
    refine ⟨.workbook workbook, ?_, rfl⟩
    exact draft_xlsx_eq_ok_iff.mpr
      (Workbook.fitted_eq_ok_iff.mpr ⟨built, fits rfl⟩)
  · rw [content_of_plain profile records sheet] at shows
    exact Except.bind_eq_ok_iff.mp shows

end Format

end AsmGloss
