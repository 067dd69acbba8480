import AsmGloss.Proofs.Output.Encoding
import AsmGloss.Proofs.Output.JsonTokens

/-!
# JSON documents read back

The tokens of a document are put together to a value.  What is not finished,
arrays and objects that were opened and not closed, waits on a stack.  A value
that was written is read back; and what a record is as a value tells all of the
record, so the file of some records can be the file of no others.
-/

namespace AsmGloss.Json

/-- An array or an object that is not closed, up to the value that is read. -/
inductive Frame where
  | array (items : List JsonValue)
  | object (members : List (String × JsonValue)) (key : String)

/-- What comes next. -/
inductive Phase where
  | value
  /-- The first item of an array, or its end. -/
  | firstItem
  /-- The first key of an object, or its end. -/
  | firstKey
  /-- Another key, behind some members. -/
  | key (members : List (String × JsonValue))
  /-- The colon behind a key. -/
  | colon (members : List (String × JsonValue)) (key : String)
  /-- What follows a value. -/
  | behind (value : JsonValue)

structure Builder where
  frames : List Frame := []
  phase : Phase := .value

namespace Builder

/-- Reads a token with which a value starts. -/
def start? (frames : List Frame) : Token → Option Builder
  | .null => some { frames, phase := .behind .null }
  | .string text => some { frames, phase := .behind (.string text) }
  | .number value => some { frames, phase := .behind (.number value) }
  | .openArray => some { frames, phase := .firstItem }
  | .openObject => some { frames, phase := .firstKey }
  | _ => none

/-- Reads what follows a value. -/
def goOn? (value : JsonValue) : List Frame → Token → Option Builder
  | .array items :: frames, .comma =>
      some { frames := .array (items ++ [value]) :: frames, phase := .value }
  | .array items :: frames, .closeArray =>
      some { frames, phase := .behind (.array (items ++ [value])) }
  | .object members key :: frames, .comma =>
      some { frames, phase := .key (members ++ [(key, value)]) }
  | .object members key :: frames, .closeObject =>
      some { frames, phase := .behind (.object (members ++ [(key, value)])) }
  | _, _ => none

def step? (builder : Builder) (token : Token) : Option Builder :=
  match builder.phase with
  | .value => start? builder.frames token
  | .firstItem =>
      if token = .closeArray then
        some { builder with phase := .behind (.array []) }
      else start? (.array [] :: builder.frames) token
  | .firstKey =>
      match token with
      | .string key => some { builder with phase := .colon [] key }
      | .closeObject => some { builder with phase := .behind (.object []) }
      | _ => none
  | .key members =>
      match token with
      | .string key => some { builder with phase := .colon members key }
      | _ => none
  | .colon members key =>
      if token = .colon then
        some
          { frames := .object members key :: builder.frames, phase := .value }
      else none
  | .behind value => goOn? value builder.frames token

def run (builder : Builder) (tokens : List Token) : Option Builder :=
  tokens.foldlM step? builder

/-- The value that was put together, if nothing is left open. -/
def finish? (builder : Builder) : Option JsonValue :=
  match builder.frames, builder.phase with
  | [], .behind value => some value
  | _, _ => none

end Builder

def read? (text : List Char) : Option JsonValue := do
  let tokens ← tokens? text
  let builder ← Builder.run {} tokens
  builder.finish?

namespace Builder

theorem run_cons (builder : Builder) (token : Token) (tokens : List Token) :
    run builder (token :: tokens) =
      (builder.step? token).bind fun reached => run reached tokens :=
  rfl

theorem run_append {builder reached : Builder} {front : List Token}
    (back : List Token) (ran : run builder front = some reached) :
    run builder (front ++ back) = run reached back := by
  simp only [run, List.foldlM_append] at ran ⊢
  rw [ran]
  rfl

/-- The first item of an array is read as any other value. -/
theorem run_firstItem (frames : List Frame) (value : JsonValue)
    (rest : List Token) :
    run { frames, phase := .firstItem } (tokens value ++ rest) =
      run { frames := .array [] :: frames } (tokens value ++ rest) := by
  have first : ∃ token later, tokens value = token :: later ∧
      token ≠ .closeArray := by
    cases value with
    | null => exact ⟨_, _, rfl, by simp⟩
    | string text => exact ⟨_, _, rfl, by simp⟩
    | number value => exact ⟨_, _, rfl, by simp⟩
    | array items =>
        cases items with
        | nil => exact ⟨_, _, rfl, by simp⟩
        | cons item items => exact ⟨_, _, rfl, by simp⟩
    | object members =>
        cases members with
        | nil => exact ⟨_, _, rfl, by simp⟩
        | cons member members => exact ⟨_, _, rfl, by simp⟩
  obtain ⟨token, later, shape, notClosed⟩ := first
  rw [shape, List.cons_append, run_cons, run_cons]
  simp [step?, notClosed]

mutual

theorem run_tokens (value : JsonValue) (frames : List Frame) :
    run { frames } (tokens value) =
      some { frames, phase := .behind value } := by
  cases value with
  | null => rfl
  | string text => rfl
  | number value => rfl
  | array items =>
      cases items with
      | nil => rfl
      | cons item items =>
          have here := run_tokens item (.array [] :: frames)
          have later := run_itemTokens items frames [] item
          rw [tokens, List.append_assoc, List.cons_append, run_cons]
          change run { frames, phase := .firstItem } _ = _
          rw [run_firstItem, run_append _ here]
          exact later
  | object members =>
      cases members with
      | nil => rfl
      | cons member members =>
          obtain ⟨key, value⟩ := member
          have here := run_tokens value (.object [] key :: frames)
          have later := run_memberTokens members frames [] key value
          rw [tokens, List.append_assoc]
          change run { frames := .object [] key :: frames }
            (tokens value ++ _) = _
          rw [run_append _ here]
          exact later

theorem run_itemTokens (items : List JsonValue) (frames : List Frame)
    (before : List JsonValue) (value : JsonValue) :
    run { frames := .array before :: frames, phase := .behind value }
        (itemTokens items ++ [.closeArray]) =
      some
        { frames
          phase := .behind (.array (before ++ value :: items)) } := by
  cases items with
  | nil => rfl
  | cons item items =>
      have here := run_tokens item (.array (before ++ [value]) :: frames)
      have later := run_itemTokens items frames (before ++ [value]) item
      rw [itemTokens, List.append_assoc]
      change run { frames := .array (before ++ [value]) :: frames }
        (tokens item ++ _) = _
      rw [run_append _ here, later, List.append_assoc, List.singleton_append]

theorem run_memberTokens (members : List (String × JsonValue))
    (frames : List Frame) (before : List (String × JsonValue)) (key : String)
    (value : JsonValue) :
    run { frames := .object before key :: frames, phase := .behind value }
        (memberTokens members ++ [.closeObject]) =
      some
        { frames
          phase := .behind (.object (before ++ (key, value) :: members)) } := by
  cases members with
  | nil => rfl
  | cons member members =>
      obtain ⟨nextKey, next⟩ := member
      have here :=
        run_tokens next (.object (before ++ [(key, value)]) nextKey :: frames)
      have later :=
        run_memberTokens members frames (before ++ [(key, value)]) nextKey next
      rw [memberTokens, List.append_assoc]
      change run
        { frames := .object (before ++ [(key, value)]) nextKey :: frames }
        (tokens next ++ _) = _
      rw [run_append _ here, later, List.append_assoc, List.singleton_append]

end

end Builder

theorem read?_text (document : JsonValue) :
    read? document.text.toList = some document := by
  rw [read?, tokens?_text]
  change (Builder.run {} (tokens document)).bind Builder.finish? = _
  rw [Builder.run_tokens]
  rfl

def member? (value : JsonValue) (key : String) : Option JsonValue :=
  match value with
  | .object members => members.lookup key
  | _ => none

def string? : JsonValue → Option String
  | .string text => some text
  | _ => none

def optional? : JsonValue → Option (Option String)
  | .null => some none
  | .string text => some (some text)
  | _ => none

def number? : JsonValue → Option Int
  | .number value => some value
  | _ => none

/-- Texts that may all be absent. -/
def strings? : JsonValue → Option (Option (List String))
  | .null => some none
  | .array items => (items.mapM string?).map some
  | _ => none

def segment? (value : JsonValue) : Option (Option Segment) :=
  match optional? value with
  | some none => some none
  | some (some name) => (Segment.ofName? name).map some
  | none => none

/-- The record that an object tells of, field by field. -/
def record? (value : JsonValue) : Option Record := do
  return {
    segment? := ← segment? (← member? value "section")
    address := ← string? (← member? value "address")
    label := ← optional? (← member? value "label")
    opcode := ← string? (← member? value "opcode")
    mnemonic := ← string? (← member? value "mnemonic")
    flags := ← strings? (← member? value "flags")
    symbol := ← optional? (← member? value "symbol")
    comment := ← optional? (← member? value "comment")
    index := ← optional? (← member? value "index")
    ascii := ← optional? (← member? value "ascii")
    lineNumber := ← number? (← member? value "line_number") }

theorem optional?_ofOption (text : Option String) :
    optional? (.ofOption text) = some text := by
  cases text <;> rfl

theorem mapM_string?_map (texts : List String) :
    (texts.map JsonValue.string).mapM string? = some texts := by
  induction texts with
  | nil => rfl
  | cons text texts induction =>
      rw [List.map_cons, List.mapM_cons, induction]
      rfl

theorem segment?_ofOption (segment : Option Segment) :
    segment? (.ofOption (segment.map Segment.name)) = some segment := by
  rcases segment with _ | segment
  · rfl
  · cases segment <;> rfl

/-- Nothing of a record is lost. -/
theorem record?_toJson (record : Record) :
    record? record.toJson = some record := by
  obtain ⟨segment, address, label, opcode, mnemonic, flags, symbol, comment,
    index, ascii, lineNumber⟩ := record
  cases flags <;>
    simp only [record?, Record.toJson, member?, List.lookup_cons, string?,
      number?, strings?, mapM_string?_map, optional?_ofOption,
      segment?_ofOption, Option.bind_eq_bind, Option.bind_some, Option.pure_def,
      Option.map_some, String.reduceBEq]

theorem mapM_record?_toJson (records : List Record) :
    (records.map Record.toJson).mapM record? = some records := by
  induction records with
  | nil => rfl
  | cons record records induction =>
      rw [List.map_cons, List.mapM_cons, record?_toJson, induction]
      rfl

end AsmGloss.Json

namespace AsmGloss

theorem Content.ofText_injective {left right : String}
    (same : ofText left = ofText right) : left = right := by
  have encoded : Text.Utf8.encode left.toList =
      Text.Utf8.encode right.toList := by
    simpa [ofText] using same
  exact String.toList_injective (Text.Utf8.encode_injective encoded)

/-- The file of some records is a document whose value has one object for each
record, in order.  The records are told from these objects field by field, and
other records of the same listing have another file. -/
theorem Json.read?_json_content (profile : Profile) (source : String)
    (records : List Record) :
    ∃ text,
      Format.json.content profile source records = .ok (.ofText text) ∧
      read? text.toList = some (.object
        [("source", .string source),
         ("family", .string profile.name),
         ("records", .array (records.map Record.toJson))]) ∧
      (records.map Record.toJson).mapM record? = some records ∧
      ∀ others,
        Format.json.content profile source others = .ok (.ofText text) ↔
          others = records := by
  refine ⟨_, Format.content_json profile records source, read?_text _,
    mapM_record?_toJson records, ?_⟩
  intro others
  rw [Format.content_json]
  constructor
  · intro same
    have texts := Content.ofText_injective (Except.ok.inj same)
    have documents := congrArg (fun text => read? text.toList) texts
    simp only [read?_text, Option.some.injEq] at documents
    have objects : others.map Record.toJson = records.map Record.toJson := by
      simpa [JsonValue.ofRecords, JsonValue.members] using documents
    have recovered := congrArg (List.mapM record?) objects
    simpa only [mapM_record?_toJson, Option.some.injEq] using recovered
  · rintro rfl
    rfl

end AsmGloss
