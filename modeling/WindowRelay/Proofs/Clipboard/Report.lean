import WindowRelay.Clipboard.Report
import WindowRelay.Window.Flags

/-!
Contract: what the classification of a clip tells.

Owns:
- the two flags that tell whether a clip has a text, and whether that text is empty;
- which clips are reported like a missing one;
- the text that is read back, against the flags that were reported;
- the classification of a clip that was published for a text.
-/

namespace WindowRelay

namespace Clipboard

variable (own : Option String) (clip : Option Clip)

/-- The text of an item alone sets the flag for a text and the flag for an empty one. -/
theorem coversBits_itemFlags (item : ClipItem) :
    coversBits (itemFlags own item) hasText = item.text.isSome ∧
      coversBits (itemFlags own item) emptyText = item.text.any (·.isEmpty) := by
  -- The flags depend on the conditions behind them only, and these are finitely many.
  have noText : ∀ hasForeign isOwn markup intent : Bool,
      let uriFlags := if hasForeign then hasUri ||| flagIf isOwn ours else 0
      let flags := uriFlags ||| 0 ||| flagIf markup hasHtml ||| flagIf intent hasIntent
      coversBits flags hasText = false ∧ coversBits flags emptyText = false := by
    decide
  have withText : ∀ hasForeign isOwn isEmpty spanned markup intent : Bool,
      let uriFlags := if hasForeign then hasUri ||| flagIf isOwn ours else 0
      let textFlags := hasText ||| flagIf isEmpty emptyText ||| flagIf spanned spannedText
      let flags := uriFlags ||| textFlags ||| flagIf markup hasHtml ||| flagIf intent hasIntent
      coversBits flags hasText = true ∧ coversBits flags emptyText = isEmpty := by
    decide
  obtain ⟨text, spanned, html, uri, intent⟩ := item
  cases uri with
  | none =>
      cases text with
      | none => exact noText false false html.isSome intent
      | some text => exact withText false false text.isEmpty spanned html.isSome intent
  | some uri =>
      cases text with
      | none => exact noText true (own == some uri) html.isSome intent
      | some text =>
          exact withText true (own == some uri) text.isEmpty spanned html.isSome intent

/-- Only a clip without items is reported like a missing one: every other one has its MIME types
reported, even if it has none. -/
theorem classify_eq_nothing_iff :
    classify own clip = (0, none) ↔ ∀ held ∈ clip, held.items = [] := by
  cases clip with
  | none => simp [classify]
  | some held =>
      unfold classify
      cases items : held.items <;> simp [items]

/-- There is a text to read back just if the report tells of one that is not empty. -/
theorem text_ne_empty_iff : text clip hasText ≠ "" ↔
    coversBits (classify own clip).1 hasText = true ∧
      coversBits (classify own clip).1 emptyText = false := by
  have nothing : coversBits 0 hasText = false := by decide
  unfold text
  rw [if_pos rfl]
  cases clip with
  | none => simp [classify, nothing]
  | some held =>
      cases items : held.items with
      | nil => simp [classify, items, nothing]
      | cons first rest =>
          obtain ⟨hasOne, isEmpty⟩ := coversBits_itemFlags own first
          simp only [classify, items, hasOne, isEmpty]
          cases content : first.text <;> simp [content]

theorem text_of_ne {flags : UInt32} (different : flags ≠ hasText) : text clip flags = "" :=
  if_neg different

/-! ## Published clips -/

/-- The flags of a clip that was published for a text: it has a text, which may be empty, and it is
one of its own if it is marked as such. -/
def publishedFlags (marked : Bool) (content : String) : UInt32 :=
  hasText ||| flagIf (content == "") emptyText ||| flagIf marked (ours ||| hasUri)

theorem classify_publish (content : String) :
    classify own (some (publish own content)) = (publishedFlags own.isSome content, some []) := by
  have flags : ∀ isEmpty : Bool,
      hasUri ||| ours ||| (hasText ||| flagIf isEmpty emptyText ||| 0) ||| 0 ||| 0 =
        hasText ||| flagIf isEmpty emptyText ||| (ours ||| hasUri) := by
    decide
  have bare : ∀ isEmpty : Bool, 0 ||| (hasText ||| flagIf isEmpty emptyText ||| 0) ||| 0 ||| 0 =
      hasText ||| flagIf isEmpty emptyText ||| 0 := by
    decide
  have isEmpty : content.isEmpty = (content == "") := by
    rw [Bool.eq_iff_iff, String.isEmpty_iff, beq_iff_eq]
  rw [publishedFlags, ← isEmpty]
  cases own with
  | none => exact congrArg (·, some []) (bare content.isEmpty)
  | some uri =>
      have isOwn : flagIf (some uri == some uri) ours = ours := by
        rw [beq_self_eq_true]
        rfl
      simp only [classify, publish, itemFlags, isOwn]
      exact congrArg (·, some []) (flags content.isEmpty)

theorem text_publish (content : String) : text (some (publish own content)) hasText = content :=
  rfl

end Clipboard

end WindowRelay
