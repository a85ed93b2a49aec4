import CrowdTask.Proofs.Json.Interspersed
import CrowdTask.Settings.File

/-!
# Comments do not change what settings mean

Comments may be put between the tokens of a JSON text in any number. Taking them out again leaves
blanks at most, and blanks between tokens change nothing of what is read. A text without comments
is not touched, whatever its strings hold.

## Main definitions

* `CrowdTask.Comments.IsComment`: what a comment is, in front of a given rest of the text.
* `CrowdTask.Comments.Commented`: that a text arises from another one by putting in comments.
* `CrowdTask.Comments.Stays`: the characters that do not lead from one zone into another one.

## Main results

* `CrowdTask.Comments.scan_cons`: what remains of a character within a zone.
* `CrowdTask.Comments.scan_of_lexed`: a text that can be cut into tokens is not touched.
* `CrowdTask.Comments.spaced_scan`: taking out comments leaves blanks at most.
* `CrowdTask.Comments.comments_change_nothing`: settings with comments mean what they mean without
  them.
-/

namespace CrowdTask.Comments

open Json

/-- Whether a text is a comment in front of the given rest: two slashes and the rest of a line, with
its end or up to it, or what stands between a slash with an asterisk and the first asterisk with a
slash. -/
inductive IsComment : List Char → List Char → Prop where
  | line (body : List Char) {rest : List Char} (hbody : '\n' ∉ body) :
      IsComment ('/' :: '/' :: (body ++ ['\n'])) rest
  | lineEnd (body : List Char) {rest : List Char} (hbody : '\n' ∉ body)
      (hrest : ∀ c, rest.head? = some c → c = '\n') : IsComment ('/' :: '/' :: body) rest
  | block (body : List Char) {rest : List Char} (hbody : ¬ ['*', '/'] <:+: body) :
      IsComment ('/' :: '*' :: (body ++ ['*', '/'])) rest

/-- Whether the second text arises from the first one by putting comments before, between and behind
its tokens. -/
def Commented (cs ds : List Char) : Prop := Interspersed IsComment cs ds

variable {c : Char} {cs ds body w g rest : List Char}

/-! ### Characters within a zone -/

/-- Whether a character in front of a rest neither begins anything nor ends the zone. -/
def Stays (c : Char) (cs : List Char) : Zone → Prop
  | .code => c ≠ '"' ∧ c ≠ '/'
  | .string => c ≠ '"' ∧ c ≠ '\\'
  | .line => c ≠ '\n'
  | .block => c ≠ '\n' ∧ ∀ tail, c = '*' → cs ≠ '/' :: tail

/-- What remains of a character within a zone: everything outside of comments, and nothing of
them. -/
def Zone.keep (c : Char) : Zone → List Char
  | .code | .string => [c]
  | .line | .block => []

theorem scan_cons {z : Zone} (h : Stays c cs z) : scan z (c :: cs) = z.keep c ++ scan z cs := by
  cases z with
  | code =>
    obtain ⟨hquote, hslash⟩ := h
    rw [scan]
    · rfl
    · exact hquote
    · exact fun _ hc => absurd hc hslash
    · exact fun _ hc => absurd hc hslash
  | string =>
    obtain ⟨hquote, hslash⟩ := h
    rw [scan]
    · rfl
    · exact fun _ _ hc => absurd hc hslash
    · exact hquote
  | line =>
    rw [scan]
    · rfl
    · exact h
  | block =>
    obtain ⟨hline, hopen⟩ := h
    rw [scan]
    · rfl
    · exact hopen
    · exact hline

/-! ### Tokens are kept -/

theorem scan_string (hbody : IsStringBody body) (cs : List Char) :
    scan .string (body ++ '"' :: cs) = body ++ '"' :: scan .code cs := by
  induction hbody with
  | nil => rfl
  | char hquote hslash _ ih =>
    rw [List.cons_append, scan_cons (z := .string) ⟨hquote, hslash⟩, ih]
    rfl
  | escape c _ ih =>
    rw [List.cons_append, List.cons_append]
    exact congrArg (fun rest => '\\' :: c :: rest) ih

theorem scan_quoted (hbody : IsStringBody body) (cs : List Char) :
    scan .code ('"' :: (body ++ '"' :: cs)) = '"' :: (body ++ '"' :: scan .code cs) :=
  congrArg ('"' :: ·) (scan_string hbody cs)

theorem scan_word (hw : ∀ c ∈ w, isWordChar c = true) (cs : List Char) :
    scan .code (w ++ cs) = w ++ scan .code cs := by
  induction w with
  | nil => rfl
  | cons c w ih =>
    obtain ⟨hc, hw⟩ := List.forall_mem_cons.mp hw
    have hquote : c ≠ '"' := by
      rintro rfl
      cases hc
    have hslash : c ≠ '/' := by
      rintro rfl
      cases hc
    rw [List.cons_append, scan_cons (z := .code) ⟨hquote, hslash⟩, ih hw]
    rfl

theorem scan_blank (hc : isSpace c = true) (cs : List Char) :
    scan .code (c :: cs) = c :: scan .code cs := by
  refine scan_cons (z := .code) ⟨?_, ?_⟩
  · rintro rfl
    cases hc
  · rintro rfl
    cases hc

theorem scan_mark (hc : isMark c = true) (cs : List Char) :
    scan .code (c :: cs) = c :: scan .code cs := by
  refine scan_cons (z := .code) ⟨?_, ?_⟩
  · rintro rfl
    cases hc
  · rintro rfl
    cases hc

/-- A text that can be cut into tokens is not touched. -/
theorem scan_of_lexed (h : Lexed cs) : scan .code cs = cs := by
  suffices hboth : ∀ {cs ds}, Interspersed (fun _ _ => False) cs ds → scan .code ds = ds from
    hboth h
  intro cs ds h
  induction h with
  | nil => rfl
  | blank hc _ ih => rw [scan_blank hc, ih]
  | mark hc _ ih => rw [scan_mark hc, ih]
  | string hbody _ ih => rw [scan_quoted hbody, ih]
  | word _ hw _ _ ih => rw [scan_word hw, ih]
  | gap hgap => exact hgap.elim

/-! ### Comments leave blanks -/

/-- Nothing remains of a line comment up to the end of its line. -/
theorem scan_line_append (hbody : '\n' ∉ body) (cs : List Char) :
    scan .line (body ++ cs) = scan .line cs := by
  induction body with
  | nil => rfl
  | cons c body ih =>
    obtain ⟨hc, hbody⟩ := not_or.mp (mt List.mem_cons.mpr hbody)
    rw [List.cons_append, scan_cons (z := .line) (Ne.symm hc), ih hbody]
    rfl

theorem scan_line (hbody : '\n' ∉ body) (cs : List Char) :
    scan .line (body ++ '\n' :: cs) = '\n' :: scan .code cs :=
  scan_line_append hbody _

theorem scan_lineEnd (hbody : '\n' ∉ body) : scan .line body = [] := by
  have h := scan_line_append hbody []
  rwa [List.append_nil] at h

/-- A block comment leaves the line ends in it and a blank. -/
theorem scan_block (hbody : ¬ ['*', '/'] <:+: body) (cs : List Char) :
    scan .block (body ++ '*' :: '/' :: cs) =
      body.filter (· = '\n') ++ ' ' :: scan .code cs := by
  induction body with
  | nil => rfl
  | cons c body ih =>
    have hinner : ¬ ['*', '/'] <:+: body := fun h => hbody (List.infix_cons h)
    -- the comment does not end at `c`, since the next character is in `body` or an asterisk
    have hopen : ∀ tail, c = '*' → body ++ '*' :: '/' :: cs ≠ '/' :: tail := by
      rintro tail rfl htail
      cases body with
      | nil => cases htail
      | cons b body =>
        obtain rfl := (List.cons.inj htail).1
        exact hbody ⟨[], body, rfl⟩
    by_cases hc : c = '\n'
    · subst hc
      rw [List.cons_append, List.filter_cons_of_pos (by rfl), List.cons_append]
      exact congrArg ('\n' :: ·) (ih hinner)
    · rw [List.cons_append, scan_cons (z := .block) ⟨hc, hopen⟩, ih hinner,
        List.filter_cons_of_neg (by simpa using hc)]
      rfl

/-- A comment leaves blanks. -/
theorem scan_comment (h : IsComment g rest) :
    ∃ blanks, scan .code (g ++ rest) = blanks ++ scan .code rest ∧
      ∀ c ∈ blanks, isSpace c = true := by
  cases h with
  | line body hbody =>
    refine ⟨['\n'], ?_, by decide⟩
    rw [List.cons_append, List.cons_append, List.append_assoc, List.singleton_append]
    exact scan_line hbody rest
  | lineEnd body hbody hrest =>
    refine ⟨[], ?_, nofun⟩
    rw [List.cons_append, List.cons_append, List.nil_append]
    cases rest with
    | nil =>
      rw [List.append_nil]
      exact scan_lineEnd hbody
    | cons c rest =>
      obtain rfl := hrest c rfl
      have hend : scan .code ('\n' :: rest) = '\n' :: scan .code rest := scan_blank rfl rest
      rw [hend]
      exact scan_line hbody rest
  | block body hbody =>
    refine ⟨body.filter (· = '\n') ++ [' '], ?_, ?_⟩
    · rw [List.cons_append, List.cons_append, List.append_assoc]
      exact (scan_block hbody rest).trans (List.append_cons ..)
    · intro c hc
      rcases List.mem_append.mp hc with hc | hc
      · obtain rfl : c = '\n' := by simpa using (List.mem_filter.mp hc).2
        rfl
      · obtain rfl := List.mem_singleton.mp hc
        rfl

/-- Taking out comments leaves blanks at most. -/
theorem spaced_scan (h : Commented cs ds) : Spaced cs (scan .code ds) := by
  induction h with
  | nil => exact .nil
  | blank hc _ ih => rw [scan_blank hc]; exact .blank hc ih
  | mark hc _ ih => rw [scan_mark hc]; exact .mark hc ih
  | string hbody _ ih => rw [scan_quoted hbody]; exact .string hbody ih
  | word hne hw hend _ ih => rw [scan_word hw]; exact .word hne hw hend ih
  | gap hgap _ ih =>
    obtain ⟨blanks, hscan, hblanks⟩ := scan_comment hgap
    rw [hscan]
    exact .gap hblanks ih

/-! ### Settings with comments -/

theorem strip_of_lexed {text : String} (h : Lexed text.toList) : strip text = text := by
  rw [strip, scan_of_lexed h, String.ofList_toList]

theorem read?_strip {text decorated : String} {r : Raw} (h : Raw.read? text = some r)
    (hdecorated : Commented text.toList decorated.toList) :
    Raw.read? (strip decorated) = some r := by
  rw [Raw.read?, strip, String.toList_ofList]
  exact Raw.readChars?_of_spaced h (spaced_scan hdecorated)

/-- **Comments do not change what settings mean.** A JSON text is not touched when comments are
taken out. When comments are put between its tokens, what is left after taking them out has the same
grammatical form and the same value, and settings with comments are the settings without them. -/
theorem comments_change_nothing (text : String) (h : (Raw.read? text).isSome) :
    strip text = text ∧
    ∀ decorated, Commented text.toList decorated.toList →
      Raw.read? (strip decorated) = Raw.read? text ∧
      Json.read? (strip decorated) = Json.read? text ∧
      ∀ path, Settings.parse decorated path = Settings.parse text path := by
  obtain ⟨r, hr⟩ := Option.isSome_iff_exists.mp h
  have htext : strip text = text := strip_of_lexed (Raw.lexed_of_readChars? hr)
  refine ⟨htext, fun decorated hdecorated => ?_⟩
  have hread := read?_strip hr hdecorated
  refine ⟨hread.trans hr.symm, ?_, fun path => ?_⟩
  · rw [Json.read?, hread, Json.read?, hr]
  · rw [Settings.parse, hread, Settings.parse, htext, hr]

/-- Slashes and a quote within a string, and comments that hold a slash, a quote and an asterisk. -/
theorem comments_change_nothing_slashes :
    strip "\x7b\"a\":\"//\\\"\"\x7d" = "\x7b\"a\":\"//\\\"\"\x7d" ∧
    Json.read? (strip "/*/*/\x7b// \"\n\"a\"/***/:/**///\n\"//\\\"\"\x7d//") =
      Json.read? "\x7b\"a\":\"//\\\"\"\x7d" := by
  obtain ⟨hsame, hread⟩ := comments_change_nothing "\x7b\"a\":\"//\\\"\"\x7d" (by decide +kernel)
  refine ⟨hsame, (hread _ ?_).2.1⟩
  have hvalue : IsStringBody ['/', '/', '\\', '"'] :=
    .char (by decide) (by decide) (.char (by decide) (by decide) (.escape '"' .nil))
  have hlast : Commented [] (['/', '/'] ++ []) := .gap (.lineEnd [] nofun nofun) .nil
  have hcolon := (Interspersed.string hvalue (.mark (c := '\x7d') rfl hlast)).gap
    (IsComment.line [] nofun) |>.gap (IsComment.block [] (by decide)) |>.mark (c := ':') rfl
  have hkey := (hcolon.gap (IsComment.block ['*'] (by decide))).string
    (IsStringBody.char (c := 'a') (by decide) (by decide) .nil)
  exact ((hkey.gap (IsComment.line [' ', '"'] (by decide))).mark (c := '\x7b') rfl).gap
    (IsComment.block ['/'] (by decide))

end CrowdTask.Comments
