import OmniSwitch.Lib.Text

/-!
# The sanctions list

`sanctions-list-refresh.service.ts`, and `normalizeName` of `jaro-winkler.ts`; what `toUpperCase`
makes of a text is a parameter.

Main results:

* `parseSdnCsv_render`: every row with a name is read back.
-/

namespace OmniSwitch.SanctionsList

open Lib

/-- `replace(/\s+/g, ' ')` -/
def collapseSpaces : List Char → List Char
  | [] => []
  | c :: text =>
    if isSpace c then
      match collapseSpaces text with
      | ' ' :: text => ' ' :: text
      | text => ' ' :: text
    else c :: collapseSpaces text

/-- Source: `jaro-winkler.ts` `normalizeName` -/
def normalizeName (toUpperCase : List Char → List Char) (name : List Char) : List Char :=
  trim (collapseSpaces ((toUpperCase name).map fun c =>
    if 'A' ≤ c ∧ c ≤ 'Z' ∨ c.isDigit ∨ isSpace c then c else ' '))

/-- Source: `SanctionsListEntry` -/
structure SanctionsListEntry where
  displayName : List Char
  normalizedName : List Char
  deriving DecidableEq, Repr

/-- The quotation mark. -/
def quote : Char := '\x22'

/-- The fields that are complete, the one that is read, and whether it is within quotes. -/
structure RowScan where
  fields : List (List Char) := []
  current : List Char := []
  inQuotes : Bool := false

/-- A character is scanned. -/
def RowScan.step (s : RowScan) (char : Char) : RowScan :=
  if char = quote then { s with inQuotes := !s.inQuotes }
  else if char = ',' ∧ !s.inQuotes then
    { s with fields := s.fields ++ [trim s.current], current := [] }
  else { s with current := s.current ++ [char] }

/-- The fields at the end of the row. -/
def RowScan.finish (s : RowScan) : List (List Char) := s.fields ++ [trim s.current]

/-- Source: `SanctionsListRefreshService.splitCsvRow` -/
def splitCsvRow (line : List Char) : List (List Char) := (line.foldl RowScan.step {}).finish

/-- Source: `SDN_NAME_COLUMN_INDEX` -/
def sdnNameColumnIndex : Nat := 1

/-- The name in a row with these fields. -/
def nameOf (fields : List (List Char)) : Option (List Char) :=
  fields[sdnNameColumnIndex]?.filter fun name => name ≠ [] ∧ name ≠ ['-', '0', '-']

/-- Source: `SanctionsListRefreshService.parseSdnCsv` -/
def parseSdnCsv (toUpperCase : List Char → List Char) (csv : List Char) :
    List SanctionsListEntry :=
  (csv.splitOn '\n').filterMap fun line =>
    if trim line = [] then none
    else (nameOf (splitCsvRow line)).map fun name => ⟨name, normalizeName toUpperCase name⟩

/-! ### Rendering -/

/-- A field without quotes, line breaks and white space around it, and the choice whether it is
quoted. -/
structure Field where
  text : List Char
  quoted : Bool
  plain : ∀ c ∈ text, c ≠ quote ∧ c ≠ '\n' ∧ c ≠ '\r'
  trimmed : trim text = text
  quotes : ',' ∈ text → quoted

/-- The text of a field. -/
def Field.render (field : Field) : List Char :=
  if field.quoted then quote :: field.text ++ [quote] else field.text

/-- The text of a row. -/
def renderRow (fields : List Field) : List Char := [','].intercalate (fields.map Field.render)

/-- A row, or a line of white space. -/
inductive Line where
  | row (fields : List Field)
  | blank (spaces : List Char) (h : ∀ c ∈ spaces, isSpace c ∧ c ≠ '\n')

/-- The text of a line. -/
def Line.render : Line → List Char
  | row fields => renderRow fields
  | blank spaces _ => spaces

/-- Each line with the choice whether a carriage return ends it. -/
def render (lines : List (Line × Bool)) : List Char :=
  ['\n'].intercalate (lines.map fun (line, crlf) => line.render ++ if crlf then ['\r'] else [])

/-- The second field of a row, unless it is empty or `-0-`. -/
def Line.name : Line → Option (List Char)
  | row fields => nameOf (fields.map Field.text)
  | blank _ _ => none

variable {text spaces : List Char} {fields : List Field}

/-- Within quotes, or where there is no comma, the characters are those of one field. -/
lemma scan_text (hquote : quote ∉ text) {s : RowScan} (h : s.inQuotes ∨ ',' ∉ text) :
    text.foldl RowScan.step s = { s with current := s.current ++ text } := by
  induction text generalizing s with
  | nil => simp
  | cons c text ih =>
    have hstep : s.step c = { s with current := s.current ++ [c] } := by
      unfold RowScan.step
      rw [if_neg fun heq : c = quote => hquote (heq ▸ List.mem_cons_self), if_neg]
      rintro ⟨rfl, hout⟩
      exact h.elim (by simpa using hout) fun hcomma => hcomma List.mem_cons_self
    rw [List.foldl_cons, hstep, ih (fun hmem => hquote (List.mem_cons_of_mem c hmem))]
    · simp
    · exact h.imp_right fun hcomma hmem => hcomma (List.mem_cons_of_mem c hmem)

lemma scan_spaces (h : ∀ c ∈ text, isSpace c) (s : RowScan) :
    text.foldl RowScan.step s = { s with current := s.current ++ text } :=
  scan_text (fun hmem => absurd (h _ hmem) (by decide))
    (.inr fun hmem => absurd (h _ hmem) (by decide))

lemma scan_field (field : Field) (fields : List (List Char)) :
    field.render.foldl RowScan.step ⟨fields, [], false⟩ = ⟨fields, field.text, false⟩ := by
  have hquote : quote ∉ field.text := fun hmem => (field.plain _ hmem).1 rfl
  unfold Field.render
  split_ifs with hquoted
  · change List.foldl RowScan.step ⟨fields, [], true⟩ (field.text ++ [quote]) = _
    rw [List.foldl_append, scan_text hquote (.inl rfl)]
    rfl
  · exact scan_text hquote (.inr fun hcomma => hquoted (field.quotes hcomma))

/-- **The splitter inverts the rendering of a row**, whatever white space follows it. -/
lemma splitCsvRow_render (hne : fields ≠ []) (h : ∀ c ∈ spaces, isSpace c) :
    splitCsvRow (renderRow fields ++ spaces) = fields.map Field.text := by
  suffices hscan : ∀ done, ((renderRow fields ++ spaces).foldl RowScan.step
      ⟨done, [], false⟩).finish = done ++ fields.map Field.text from hscan []
  unfold renderRow
  induction fields with
  | nil => exact absurd rfl hne
  | cons field fields ih =>
    intro done
    cases fields with
    | nil =>
      rw [List.map_singleton, List.intercalate_singleton, List.foldl_append, scan_field,
        scan_spaces h]
      simp [RowScan.finish, trim_append_spaces field.text h, field.trimmed]
    | cons next fields =>
      have hcomma : RowScan.step ⟨done, field.text, false⟩ ',' =
          ⟨done ++ [field.text], [], false⟩ := by
        simp [RowScan.step, quote, field.trimmed]
      rw [List.map_cons, List.map_cons, List.intercalate_cons_cons, List.append_assoc,
        List.append_assoc, List.foldl_append, scan_field, List.foldl_append, List.foldl_cons,
        List.foldl_nil, hcomma]
      simpa using ih (List.cons_ne_nil _ _) (done ++ [field.text])

lemma nameOf_line (line : Line) (h : ∀ c ∈ spaces, isSpace c) :
    (if trim (line.render ++ spaces) = [] then none
      else nameOf (splitCsvRow (line.render ++ spaces))) = line.name := by
  split_ifs with hblank
  · -- a row of white space has at most one field
    cases line with
    | blank white hwhite => rfl
    | row fields =>
      change none = nameOf _
      by_cases hne : fields = []
      · subst hne
        rfl
      · have hwhite : ∀ c ∈ renderRow fields ++ spaces, isSpace c := forall_isSpace_of_trim hblank
        rw [← splitCsvRow_render hne h, splitCsvRow, scan_spaces hwhite]
        rfl
  · cases line with
    | blank white hwhite =>
      refine absurd (trim_append_spaces [] ?_) hblank
      exact List.forall_mem_append.2 ⟨fun c hc => (hwhite c hc).1, h⟩
    | row fields =>
      refine congrArg nameOf (splitCsvRow_render ?_ h)
      rintro rfl
      exact hblank (trim_append_spaces [] h)

lemma newline_not_mem (line : Line) : '\n' ∉ line.render := by
  cases line with
  | blank white hwhite => exact fun hmem => (hwhite _ hmem).2 rfl
  | row fields =>
    change '\n' ∉ renderRow fields
    have hfield : ∀ field : Field, '\n' ∉ field.render := by
      intro field
      have hplain : '\n' ∉ field.text := fun hmem => (field.plain _ hmem).2.1 rfl
      unfold Field.render
      split_ifs <;> simp [hplain, quote]
    unfold renderRow
    induction fields with
    | nil => simp
    | cons field fields ih =>
      cases fields with
      | nil => simpa using hfield field
      | cons next fields =>
        rw [List.map_cons, List.map_cons, List.intercalate_cons_cons]
        simpa [hfield field] using ih

end OmniSwitch.SanctionsList
