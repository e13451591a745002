import UiTags.Script.Link
import UiTags.Proofs.ScriptLiterals
import UiTags.Text.Encoding

/-!
# Container links as browsers run them

A container link is a `javascript:` URL: `void(` a test that the page's loader is present, a
call of the loader's link handler with the trimmed URL as a single-quoted string and the event,
or else a report that the loader is missing `)`. As written, the link is fixed text around that
one literal, which ends at its own closing quote and stands for the trimmed URL.

Before a browser runs a `javascript:` URL it percent-decodes the text after the scheme: a `%`
followed by two hex digits stands for the byte they spell, a run of such escapes for the UTF-8
text of its bytes (a bad sequence for U+FFFD), and every other character for itself, since the
bytes of a character always read back whole. The URL parser changes nothing before that: the
escaper leaves no tab or line break in the link, and the parser's own escapes are undone by the
same decoding. The string escaper writes no `%` and leaves a `%` as it is, so the script is the
link as written exactly when the trimmed URL holds no escape. One that does is decoded first:
`%27` becomes a quote, which ends the literal early, and the rest of the URL runs as code.

Main results:

- `Script.percentDecode_of_not_hasEscape`: a text without escapes decodes to itself.
- `Script.hasEscape_escape`: escaping neither makes nor removes an escape.
- `Script.urlScript_link`: the script of a link is the fixed text around the decoding of the
  quoted, escaped URL.
- `Script.link_runs_handler`: the link calls the handler with the trimmed URL, as browsers run
  it, when the URL holds no escape.
- `Script.escaped_quote_closes_literal`: `%27);alert(1);//` calls the handler with the empty
  text and then `alert`.
-/

namespace UiTags
namespace Script

/-! ## Percent-decoding -/

/-- Whether a character is an ASCII hex digit. -/
def isHexDigit (c : Char) : Bool := (Json.hexValue? c).isSome

/-- The byte two hex digits spell. -/
def hexByte (h l : Char) : Option UInt8 :=
  match Json.hexValue? h, Json.hexValue? l with
  | some a, some b => some (UInt8.ofNat (a * 16 + b))
  | _, _ => none

/-- The characters bytes stand for, read as UTF-8 with U+FFFD for each bad sequence. -/
def readUtf8 (bs : List UInt8) : List Char :=
  match Text.decode .utf8 "replace" bs with
  | .ok s => s.toList
  | .error _ => []

/-- Percent-decoding from a point where the escapes just read spell the bytes `pending`: an
escape adds its byte to the run; any other character ends the run, which is read as UTF-8, and
stands for itself. -/
def percentDecodeFrom (pending : List UInt8) : List Char → List Char
  | '%' :: h :: l :: more =>
    match hexByte h l with
    | some b => percentDecodeFrom (pending ++ [b]) more
    | none => readUtf8 pending ++ '%' :: percentDecodeFrom [] (h :: l :: more)
  | c :: rest => readUtf8 pending ++ c :: percentDecodeFrom [] rest
  | [] => readUtf8 pending

/-- A text percent-decoded. -/
def percentDecode (cs : List Char) : List Char := percentDecodeFrom [] cs

/-- The script a `javascript:` URL runs: the text after the scheme, percent-decoded; nothing for
a URL of another scheme. -/
def urlScript (href : String) : Option String :=
  if "javascript:".toList.isPrefixOf href.toList then
    some (String.ofList (percentDecode (href.toList.drop 11)))
  else none

/-- Whether a text starts with a percent escape: a `%` and two hex digits. -/
def startsEscape : List Char → Bool
  | c :: h :: l :: _ => c == '%' && isHexDigit h && isHexDigit l
  | _ => false

/-- Whether a text holds a percent escape. -/
def hasEscape : List Char → Bool
  | [] => false
  | c :: rest => startsEscape (c :: rest) || hasEscape rest

theorem hexByte_isSome (h l : Char) : (hexByte h l).isSome = (isHexDigit h && isHexDigit l) := by
  unfold hexByte isHexDigit
  cases Json.hexValue? h <;> cases Json.hexValue? l <;> rfl

theorem startsEscape_of_ne {c : Char} (hc : c ≠ '%') (rest : List Char) :
    startsEscape (c :: rest) = false := by
  match rest with
  | [] => rfl
  | [_] => rfl
  | _ :: _ :: _ => simp [startsEscape, hc]

/-- A `%` before a character that is no hex digit starts no escape. -/
theorem startsEscape_percent_of_not_hex {x : Char} (hx : isHexDigit x = false) (rest : List Char) :
    startsEscape ('%' :: x :: rest) = false := by
  cases rest with
  | nil => rfl
  | cons _ _ => simp [startsEscape, hx]

/-- Whether a text starts with an escape depends on its first three characters only, so text
after a character that is no hex digit leaves it unchanged. -/
theorem startsEscape_append_of_not_hex {c : Char} (hx : isHexDigit c = false) :
    ∀ {xs : List Char}, xs ≠ [] → ∀ zs, startsEscape (xs ++ c :: zs) = startsEscape xs
  | [_], _, zs => by cases zs <;> simp [startsEscape, hx]
  | [_, _], _, _ => by simp [startsEscape, hx]
  | _ :: _ :: _ :: _, _, _ => rfl

/-! ### The equations of the decoder -/

@[simp] theorem readUtf8_nil : readUtf8 [] = [] := rfl

theorem percentDecodeFrom_nil (pending : List UInt8) :
    percentDecodeFrom pending [] = readUtf8 pending := by
  rw [percentDecodeFrom]

theorem percentDecodeFrom_escape {pending : List UInt8} {h l : Char} {more : List Char}
    {b : UInt8} (hb : hexByte h l = some b) :
    percentDecodeFrom pending ('%' :: h :: l :: more) = percentDecodeFrom (pending ++ [b]) more := by
  rw [percentDecodeFrom, hb]

theorem percentDecodeFrom_cons {pending : List UInt8} {c : Char} {rest : List Char}
    (h : startsEscape (c :: rest) = false) :
    percentDecodeFrom pending (c :: rest) = readUtf8 pending ++ c :: percentDecodeFrom [] rest := by
  by_cases hlong : c = '%' ∧ ∃ d e more, rest = d :: e :: more
  · obtain ⟨rfl, d, e, more, rfl⟩ := hlong
    have hde : hexByte d e = none := by
      rw [← Option.not_isSome_iff_eq_none, hexByte_isSome]
      simpa [startsEscape] using h
    rw [percentDecodeFrom, hde]
  · -- the first pattern does not apply
    rw [percentDecodeFrom]
    rintro d e more rfl rfl
    exact hlong ⟨rfl, d, e, more, rfl⟩

theorem percentDecode_cons_of_ne {c : Char} (hc : c ≠ '%') (rest : List Char) :
    percentDecode (c :: rest) = c :: percentDecode rest := by
  rw [percentDecode, percentDecodeFrom_cons (startsEscape_of_ne hc rest), readUtf8_nil,
    List.nil_append, percentDecode]

/-- **A text without escapes is its own percent-decoding.** -/
theorem percentDecode_of_not_hasEscape : ∀ {cs : List Char}, hasEscape cs = false →
    percentDecode cs = cs
  | [], _ => by rw [percentDecode, percentDecodeFrom_nil, readUtf8_nil]
  | c :: cs, h => by
    rw [hasEscape, Bool.or_eq_false_iff] at h
    rw [percentDecode, percentDecodeFrom_cons h.1, readUtf8_nil, List.nil_append,
      ← percentDecode, percentDecode_of_not_hasEscape h.2]

/-- Text without `%` is kept as it is before whatever follows. -/
theorem percentDecode_append_of_not_mem {xs : List Char} (hx : '%' ∉ xs) (ys : List Char) :
    percentDecode (xs ++ ys) = xs ++ percentDecode ys := by
  induction xs with
  | nil => rfl
  | cons c xs ih =>
    simp only [List.mem_cons, not_or] at hx
    rw [List.cons_append, percentDecode_cons_of_ne (Ne.symm hx.1), ih hx.2, List.cons_append]

/-- Decoding splits at a character that is neither `%` nor a hex digit: no escape and no run of
escapes reaches across it. -/
theorem percentDecodeFrom_append {c : Char} (hc : c ≠ '%') (hx : isHexDigit c = false)
    (zs : List Char) (pending : List UInt8) (ys : List Char) :
    percentDecodeFrom pending (ys ++ c :: zs) = percentDecodeFrom pending ys ++ c :: percentDecode zs := by
  induction pending, ys using percentDecodeFrom.induct with
  | case1 pending h l more b hb ih =>
    simp only [List.cons_append]
    rw [percentDecodeFrom_escape hb, percentDecodeFrom_escape hb, ih]
  | case2 pending h l more hb ih =>
    have hstart : startsEscape ('%' :: h :: l :: more) = false := by
      have hnot := hexByte_isSome h l
      rw [hb] at hnot
      simp [startsEscape, ← hnot]
    have hstart' : startsEscape ('%' :: h :: l :: (more ++ c :: zs)) = false := hstart
    simp only [List.cons_append]
    rw [percentDecodeFrom_cons hstart', percentDecodeFrom_cons hstart, ← List.cons_append,
      ← List.cons_append, ih, List.append_assoc, List.cons_append]
  | case3 pending d rest hnot ih =>
    -- a text that is not an escape at its head: a `%` has fewer than two characters after it
    have hstart : startsEscape (d :: rest) = false := by
      match rest, hnot with
      | [], _ => rfl
      | [_], _ => rfl
      | _ :: _ :: _, hnot => exact startsEscape_of_ne (fun hd => hnot _ _ _ hd rfl) _
    have hstart' : startsEscape (d :: (rest ++ c :: zs)) = false := by
      rw [← List.cons_append, startsEscape_append_of_not_hex hx (List.cons_ne_nil d rest), hstart]
    rw [List.cons_append, percentDecodeFrom_cons hstart', percentDecodeFrom_cons hstart, ih,
      List.append_assoc, List.cons_append]
  | case4 pending =>
    rw [List.nil_append, percentDecodeFrom_cons (startsEscape_of_ne hc zs), percentDecodeFrom_nil,
      percentDecode]

/-! ### Escaped text -/

/-- Text without `%` adds no escape before whatever follows. -/
theorem hasEscape_append_of_not_mem {xs : List Char} (hx : '%' ∉ xs) (ys : List Char) :
    hasEscape (xs ++ ys) = hasEscape ys := by
  induction xs with
  | nil => rfl
  | cons c xs ih =>
    simp only [List.mem_cons, not_or] at hx
    rw [List.cons_append, hasEscape, startsEscape_of_ne (Ne.symm hx.1), Bool.false_or, ih hx.2]

/-- The characters the escaper replaces are no hex digits, and their escapes hold no `%`. -/
theorem escapedChars_apart {c : Char} (hc : c ∈ escapedChars) :
    isHexDigit c = false ∧ '%' ∉ escapeChar c := by
  have htable :
      escapedChars.all (fun c => !isHexDigit c && !(escapeChar c).contains '%') = true := by
    decide
  have h := List.all_eq_true.1 htable c hc
  simp only [Bool.and_eq_true, Bool.not_eq_true'] at h
  refine ⟨h.1, fun hm => ?_⟩
  have hcontains := List.contains_iff_mem.2 hm
  rw [h.2] at hcontains
  exact Bool.false_ne_true hcontains

/-- A hex digit is written as itself. -/
theorem escapeChar_of_hex {c : Char} (hc : isHexDigit c = true) : escapeChar c = [c] :=
  escapeChar_of_not_mem fun hm => by simp [(escapedChars_apart hm).1] at hc

/-- The escape of a character starts with a hex digit exactly when the character is one. -/
theorem escapeChar_head (c : Char) :
    ∃ x t, escapeChar c = x :: t ∧ isHexDigit x = isHexDigit c := by
  by_cases hc : c ∈ escapedChars
  · obtain ⟨t, ht⟩ := escapeSequence_cons (escapedChars_table_mem hc).2.1
    exact ⟨'\\', t, ht, by rw [(escapedChars_apart hc).1]; decide⟩
  · exact ⟨c, [], escapeChar_of_not_mem hc, rfl⟩

/-- A `%` starts an escape before escaped text exactly when it does before the text. -/
theorem startsEscape_escaped (c : Char) (cs : List Char) :
    startsEscape (c :: cs.flatMap escapeChar) = startsEscape (c :: cs) := by
  by_cases hc : c = '%'
  · subst hc
    match cs with
    | [] => rfl
    | d :: ds =>
      obtain ⟨x, t, hx, hxd⟩ := escapeChar_head d
      cases hd : isHexDigit d with
      | false =>
        rw [List.flatMap_cons, hx, List.cons_append, startsEscape_percent_of_not_hex (hxd.trans hd),
          startsEscape_percent_of_not_hex hd]
      | true =>
        rw [List.flatMap_cons, escapeChar_of_hex hd, List.singleton_append]
        match ds with
        | [] => rfl
        | e :: es =>
          obtain ⟨y, u, hy, hye⟩ := escapeChar_head e
          rw [List.flatMap_cons, hy, List.cons_append]
          simp only [startsEscape, hye]
  · rw [startsEscape_of_ne hc, startsEscape_of_ne hc]

/-- The escape of a character before any text adds only the escape the character starts. -/
theorem hasEscape_escapeChar_append (c : Char) (ys : List Char) :
    hasEscape (escapeChar c ++ ys) = (startsEscape (c :: ys) || hasEscape ys) := by
  by_cases hc : c ∈ escapedChars
  · have hne : c ≠ '%' := fun he => by subst he; exact absurd hc (by decide)
    rw [hasEscape_append_of_not_mem (escapedChars_apart hc).2, startsEscape_of_ne hne,
      Bool.false_or]
  · rw [escapeChar_of_not_mem hc]
    rfl

/-- **Escaping neither makes nor removes a percent escape.** A `%` is written as itself, and
the character after it starts its escape with a hex digit exactly when it is one. -/
theorem hasEscape_escape : ∀ cs : List Char, hasEscape (cs.flatMap escapeChar) = hasEscape cs
  | [] => rfl
  | c :: cs => by
    rw [List.flatMap_cons, hasEscape_escapeChar_append, startsEscape_escaped c cs,
      hasEscape_escape cs, hasEscape]

/-! ## Links -/

/-- The text of a link's script before the handler's string literal. -/
def linkHead : String :=
  "void(window.BoxLangAjax && BoxLangAjax.utils ? BoxLangAjax.utils.handleAjaxLink("

/-- The text of a link's script after the handler's string literal. -/
def linkTail : String := ", event) : console.error('BoxLang AJAX not initialized'))"

/-- A link is the scheme and fixed text around the literal of the trimmed URL. -/
theorem containerLink_ok {url : Value} (hnull : url ≠ .null) (hblank : Text.strip url.text ≠ "") :
    containerLink url =
      .ok ("javascript:" ++ linkHead ++ quotedText (Text.strip url.text) ++ linkTail) := by
  have hempty : (Text.strip url.text).isEmpty = false := by
    simpa [String.isEmpty_iff] using hblank
  cases url with
  | null => exact absurd rfl hnull
  | _ =>
    simp only [containerLink, hempty, Bool.false_eq_true, if_false, quotedText, linkHead,
      linkTail, String.append_assoc]
    rfl

/-- The script of a link: the fixed text around the quotes, and between them the escaped text,
percent-decoded. -/
theorem urlScript_link (s : String) :
    urlScript ("javascript:" ++ linkHead ++ quotedText s ++ linkTail) =
      some (linkHead ++ "'" ++ String.ofList (percentDecode (escape s).toList) ++ "'" ++ linkTail) := by
  have hprefix : "javascript:".toList.isPrefixOf
      ("javascript:" ++ linkHead ++ quotedText s ++ linkTail).toList = true := by
    simp only [String.toList_append, List.append_assoc]
    exact List.isPrefixOf_iff_prefix.2 (List.prefix_append _ _)
  have hdrop : ("javascript:" ++ linkHead ++ quotedText s ++ linkTail).toList.drop 11 =
      linkHead.toList ++ '\'' :: ((escape s).toList ++ '\'' :: linkTail.toList) := by
    -- the quotes as characters, so that the list after the scheme is the one on the right
    have hquote : "'".toList = ['\''] := rfl
    simp only [quotedText, String.toList_append, List.append_assoc, hquote, List.singleton_append]
    exact List.drop_left' rfl
  have htail : percentDecode linkTail.toList = linkTail.toList :=
    percentDecode_of_not_hasEscape (by decide)
  -- the quotes are neither `%` nor hex digits, so decoding keeps them and splits at the last
  have hdecode :
      percentDecode (linkHead.toList ++ '\'' :: ((escape s).toList ++ '\'' :: linkTail.toList)) =
        linkHead.toList ++ '\'' :: (percentDecode (escape s).toList ++ '\'' :: linkTail.toList) := by
    rw [percentDecode_append_of_not_mem (by decide), percentDecode_cons_of_ne (by decide),
      percentDecode, percentDecodeFrom_append (by decide) (by decide), htail, ← percentDecode]
  rw [urlScript, if_pos hprefix, hdrop, hdecode, Option.some.injEq, ← String.toList_inj]
  simp [String.toList_append]

/-- **What a link runs.** For every URL value that is given and not blank, the link is the
`javascript:` scheme and fixed text around the quoted, escaped URL; the script a browser runs
from it is the same fixed text around the quotes, with the escaped URL percent-decoded between
them; when the trimmed URL holds no escape, that script is the link as written; and the literal
written there ends at its own closing quote and stands for the trimmed URL. -/
theorem link_runs_handler (url : Value) (hnull : url ≠ .null)
    (hblank : Text.strip url.text ≠ "") :
    containerLink url =
        .ok ("javascript:" ++ linkHead ++ quotedText (Text.strip url.text) ++ linkTail) ∧
      urlScript ("javascript:" ++ linkHead ++ quotedText (Text.strip url.text) ++ linkTail) =
        some (linkHead ++ "'" ++ String.ofList (percentDecode (escape (Text.strip url.text)).toList) ++
          "'" ++ linkTail) ∧
      (hasEscape (Text.strip url.text).toList = false →
        urlScript ("javascript:" ++ linkHead ++ quotedText (Text.strip url.text) ++ linkTail) =
          some (linkHead ++ quotedText (Text.strip url.text) ++ linkTail)) ∧
      readLiteral ((quotedText (Text.strip url.text)).toList ++ linkTail.toList) =
        some (codeUnits (Text.strip url.text).toList, linkTail.toList) := by
  refine ⟨containerLink_ok hnull hblank, urlScript_link _, fun hpct => ?_, ?_⟩
  · have hkept : percentDecode (escape (Text.strip url.text)).toList =
        (escape (Text.strip url.text)).toList := by
      rw [escape, String.toList_ofList]
      exact percentDecode_of_not_hasEscape (by rw [hasEscape_escape, hpct])
    rw [urlScript_link, hkept, String.ofList_toList, quotedText]
    simp only [String.append_assoc]
  · -- the literal is read the same before any text
    generalize linkTail.toList = rest
    have hquote : "'".toList = ['\''] := rfl
    simp only [quotedText, escape, String.toList_append, String.toList_ofList, List.append_assoc,
      hquote, List.singleton_append]
    exact readFrom_escaped rest (Text.strip url.text).toList

/-- A path with a query and no escape runs as written: the handler gets the trimmed path. -/
theorem orders_link_runs_handler :
    containerLink (.str " /orders?page=2 ") =
        .ok ("javascript:" ++ linkHead ++ quotedText "/orders?page=2" ++ linkTail) ∧
      urlScript ("javascript:" ++ linkHead ++ quotedText "/orders?page=2" ++ linkTail) =
        some (linkHead ++ quotedText "/orders?page=2" ++ linkTail) := by
  have hstrip : Text.strip (Value.str " /orders?page=2 ").text = "/orders?page=2" := by decide
  have hrun := link_runs_handler (.str " /orders?page=2 ") (by simp) (by rw [hstrip]; decide)
  rw [hstrip] at hrun
  exact ⟨hrun.1, hrun.2.2.1 (by decide)⟩

/-- The URL `%27);alert(1);//` is written between the quotes as it is; the browser decodes `%27`
to a quote, so the handler's literal is the empty text, and `alert(1)` follows as code. -/
theorem escaped_quote_closes_literal :
    containerLink (.str "%27);alert(1);//") =
        .ok ("javascript:" ++ linkHead ++ "'%27);alert(1);//'" ++ linkTail) ∧
      urlScript ("javascript:" ++ linkHead ++ "'%27);alert(1);//'" ++ linkTail) =
        some (linkHead ++ "'');alert(1);//'" ++ linkTail) ∧
      readLiteral ("'');alert(1);//'" ++ linkTail).toList =
        some ([], (");alert(1);//'" ++ linkTail).toList) := by
  have hstrip : Text.strip (Value.str "%27);alert(1);//").text = "%27);alert(1);//" := by decide
  have hquoted : quotedText "%27);alert(1);//" = "'%27);alert(1);//'" := by decide
  have hlink := @containerLink_ok (.str "%27);alert(1);//") (by simp) (by rw [hstrip]; decide)
  rw [hstrip, hquoted] at hlink
  -- the escape `%27` is the byte of a quote; the rest holds no escape
  have hdecode : percentDecode (escape "%27);alert(1);//").toList = "');alert(1);//".toList := by
    have hescaped :
        (escape "%27);alert(1);//").toList = '%' :: '2' :: '7' :: ')' :: ";alert(1);//".toList := by
      decide
    rw [hescaped, percentDecode, percentDecodeFrom_escape (b := 0x27) (by decide),
      percentDecodeFrom_cons (startsEscape_of_ne (c := ')') (by decide) _), ← percentDecode,
      percentDecode_of_not_hasEscape (by decide)]
    decide
  have hscript := urlScript_link "%27);alert(1);//"
  rw [hquoted, hdecode, String.ofList_toList] at hscript
  refine ⟨hlink, hscript.trans (by simp only [String.append_assoc]; rfl), ?_⟩
  have hempty : ∀ rest, readLiteral ('\'' :: '\'' :: rest) = some ([], rest) := fun _ => rfl
  rw [String.toList_append, String.toList_append]
  exact hempty _

end Script
end UiTags
