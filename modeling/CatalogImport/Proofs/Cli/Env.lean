import CatalogImport.Cli.Env
import CatalogImport.Proofs.Text.Blank
import CatalogImport.Proofs.Text.ByteOrder
import Mathlib.Data.List.ReduceOption

/-!
# Environment files

A file of variables says line by line what it lays over an environment.  Main statements: a file in which every
pair of a key and a value has a line `KEY="VALUE"` is read back as these pairs, whatever white space, comments and
`export` are written beside them, and a file is refused just when a line of it is malformed, for the first that is
(`files_round_trip`).  Step by step: what one line says (`assignment?_of_written`, `assignment?_eq_error_iff`), and
what all lines do (`withLines_of_written`, `withLines_eq_error_iff`).
-/

namespace CatalogImport

namespace Env

/-! ## Parts of a line -/

theorem afterStart?_eq_some_iff {start cs rest : List Char} :
    afterStart? start cs = some rest ↔ cs = start ++ rest := by
  induction start generalizing cs with
  | nil => simp [afterStart?, eq_comm]
  | cons s start ih =>
    cases cs with
    | nil => simp [afterStart?]
    | cons c cs =>
      rw [afterStart?, List.cons_append, List.cons.injEq]
      split
      · next heq => simp [ih, heq]
      · next hne => simp [Ne.symm hne]

theorem afterStart?_eq_none_iff {start cs : List Char} : afterStart? start cs = none ↔ ¬ start <+: cs := by
  rw [Option.eq_none_iff_forall_ne_some, List.IsPrefix, not_exists]
  exact forall_congr' fun rest => not_congr (afterStart?_eq_some_iff.trans eq_comm)

/-- If a text begins with a word without an equals sign, what stands before its first equals sign does. -/
theorem prefix_of_prefix_append {start before after : List Char} (hequals : '=' ∉ start)
    (h : start <+: before ++ '=' :: after) : start <+: before := by
  rcases Nat.lt_or_ge before.length start.length with hlength | hlength
  -- A longer word would reach over the equals sign.
  · have hshort : before ++ ['='] <+: start :=
      List.prefix_of_prefix_length_le ⟨after, (List.append_cons ..).symm⟩ h
        (by rw [List.length_append]; exact hlength)
    exact absurd (hshort.subset (by simp)) hequals
  · exact List.prefix_of_prefix_length_le h (List.prefix_append _ _) hlength

theorem splitAtEquals?_eq_some_iff {cs before after : List Char} :
    splitAtEquals? cs = some (before, after) ↔ cs = before ++ '=' :: after ∧ '=' ∉ before := by
  induction cs generalizing before after with
  | nil => simp [splitAtEquals?]
  | cons c cs ih =>
    rw [splitAtEquals?]
    split
    · next heq =>
      subst heq
      cases before with
      | nil => simp
      | cons b before => simp; tauto
    · next hne =>
      cases before with
      | nil => simp [Option.map_eq_some_iff, hne]
      | cons b before =>
        simp only [Option.map_eq_some_iff, Prod.exists, ih, Prod.mk.injEq, List.cons.injEq, List.cons_append,
          List.mem_cons, not_or]
        constructor
        · rintro ⟨_, _, ⟨rfl, hequals⟩, ⟨rfl, rfl⟩, rfl⟩
          exact ⟨⟨rfl, rfl⟩, Ne.symm hne, hequals⟩
        · rintro ⟨⟨rfl, rfl⟩, -, hequals⟩
          exact ⟨before, after, ⟨rfl, hequals⟩, ⟨rfl, rfl⟩, rfl⟩

theorem splitAtEquals?_eq_none_iff {cs : List Char} : splitAtEquals? cs = none ↔ '=' ∉ cs := by
  induction cs with
  | nil => simp [splitAtEquals?]
  | cons c cs ih =>
    rw [splitAtEquals?]
    split
    · next heq => simp [heq]
    · next hne => simp [ih, Ne.symm hne]

/-- A text between double quotes is what is between them, whatever that is. -/
theorem unquoted_quoted (value : List Char) : unquoted ('"' :: (value ++ ['"'])) = value := by
  simp [unquoted]

/-- A text without its quotes is made of its bytes but the first and the last: the cut is never within a
character, as quotes have one byte. -/
theorem unquoted_bytes (cs : List Char) : unquoted cs = cs ∨ ∃ quote : UInt8,
    cs.flatMap String.utf8EncodeChar
      = quote :: ((unquoted cs).flatMap String.utf8EncodeChar ++ [quote]) := by
  cases cs with
  | nil => exact .inl rfl
  | cons first rest =>
    rw [unquoted]
    split
    · next h =>
      obtain ⟨hquote, hlast⟩ := h
      obtain ⟨quote, hbyte⟩ : ∃ quote, String.utf8EncodeChar first = [quote] := by
        rcases hquote with rfl | rfl
        · exact ⟨0x22, by decide⟩
        · exact ⟨0x27, by decide⟩
      obtain ⟨inner, rfl⟩ := List.getLast?_eq_some_iff.1 hlast
      refine .inr ⟨quote, ?_⟩
      rw [List.dropLast_concat, List.flatMap_cons, List.flatMap_append, List.flatMap_singleton, hbyte]
      rfl
    · exact .inl rfl

/-! ## One line -/

/-- What is left of a line without the white space around it and without the word in front.  A line of white space
and a comment have no body. -/
def HasBody (line body : List Char) : Prop :=
  ∃ lead core trail, line = lead ++ core ++ trail ∧ Text.AllBlank lead ∧ Text.AllBlank trail ∧
    Text.Trimmed core ∧ core ≠ [] ∧ core.head? ≠ some '#' ∧
    (core = "export ".toList ++ body ∨ ¬ "export ".toList <+: core ∧ core = body)

/-- A line is malformed, for this reason. -/
inductive Malformed (line : List Char) (number : Nat) : ConfigError → Prop
  | noEquals {body : List Char} (hline : HasBody line body) (hequals : '=' ∉ body) :
      Malformed line number (.malformedLine number)
  | noKey {before after : List Char} (hline : HasBody line (before ++ '=' :: after))
      (hblank : Text.AllBlank before) : Malformed line number (.emptyKey number)

theorem hasBody_iff {line body : List Char} : HasBody line body ↔
    ¬ (Text.trimChars line = [] ∨ (Text.trimChars line).head? = some '#') ∧
      (afterStart? "export ".toList (Text.trimChars line)).getD (Text.trimChars line) = body := by
  constructor
  · rintro ⟨lead, core, trail, rfl, hlead, htrail, hcore, hnil, hcomment, hbody⟩
    rw [Text.trimChars_between hlead htrail hcore]
    refine ⟨not_or.2 ⟨hnil, hcomment⟩, ?_⟩
    rcases hbody with hword | ⟨hword, hbody⟩
    · rw [afterStart?_eq_some_iff.2 hword, Option.getD_some]
    · rw [afterStart?_eq_none_iff.2 hword, Option.getD_none, hbody]
  · rintro ⟨hcore, hbody⟩
    obtain ⟨hnil, hcomment⟩ := not_or.1 hcore
    obtain ⟨lead, trail, hlead, htrail, hline⟩ := Text.exists_between line
    refine ⟨lead, _, trail, hline, hlead, htrail, Text.trimmed_trimChars line, hnil, hcomment, ?_⟩
    cases hword : afterStart? "export ".toList (Text.trimChars line) with
    | some rest =>
      rw [hword, Option.getD_some] at hbody
      exact .inl (hbody ▸ afterStart?_eq_some_iff.1 hword)
    | none =>
      rw [hword, Option.getD_none] at hbody
      exact .inr ⟨afterStart?_eq_none_iff.1 hword, hbody⟩

/-- Nothing is wrong with a line. -/
def Sound (line : List Char) : Prop := ∀ number err, ¬ Malformed line number err

section

variable {line : List Char} (number : Nat)

theorem assignment?_of_noEquals {body : List Char} (hline : HasBody line body) (hequals : '=' ∉ body) :
    assignment? number line = .error (.malformedLine number) := by
  obtain ⟨hcore, hbody⟩ := hasBody_iff.1 hline
  unfold assignment?
  simp only [if_neg hcore, hbody, splitAtEquals?_eq_none_iff.2 hequals]

theorem assignment?_of_equals {before after : List Char} (hline : HasBody line (before ++ '=' :: after))
    (hequals : '=' ∉ before) : assignment? number line =
      if Text.trimChars before = [] then .error (.emptyKey number)
      else .ok (some (String.ofList (Text.trimChars before), String.ofList (unquoted (Text.trimChars after)))) := by
  obtain ⟨hcore, hbody⟩ := hasBody_iff.1 hline
  unfold assignment?
  simp only [if_neg hcore, hbody, splitAtEquals?_eq_some_iff.2 ⟨rfl, hequals⟩]

theorem assignment?_of_noBody (hline : ∀ body, ¬ HasBody line body) : assignment? number line = .ok none := by
  unfold assignment?
  dsimp only
  split
  · rfl
  · next hcore => exact absurd (hasBody_iff.2 ⟨hcore, rfl⟩) (hline _)

end

theorem equals_not_mem_of_allBlank {cs : List Char} (h : Text.AllBlank cs) : '=' ∉ cs :=
  fun hmem => absurd (h '=' hmem) (by decide)

/-- A line is refused just when it is malformed, and for the reason that it is. -/
theorem assignment?_eq_error_iff {line : List Char} {number : Nat} {err : ConfigError} :
    assignment? number line = .error err ↔ Malformed line number err := by
  constructor
  · intro h
    by_cases hline : ∃ body, HasBody line body
    · obtain ⟨body, hline⟩ := hline
      by_cases hequals : '=' ∈ body
      · obtain ⟨before, after, rfl, hbefore⟩ := List.eq_append_cons_of_mem hequals
        rw [assignment?_of_equals number hline hbefore] at h
        split at h
        · next hblank =>
          cases h
          exact .noKey hline (Text.trimChars_eq_nil_iff.1 hblank)
        · cases h
      · rw [assignment?_of_noEquals number hline hequals] at h
        cases h
        exact .noEquals hline hequals
    · rw [assignment?_of_noBody number (not_exists.1 hline)] at h
      cases h
  · rintro (⟨hline, hequals⟩ | ⟨hline, hblank⟩)
    · exact assignment?_of_noEquals number hline hequals
    · rw [assignment?_of_equals number hline (equals_not_mem_of_allBlank hblank),
        if_pos (Text.trimChars_eq_nil_iff.2 hblank)]

theorem sound_of_assignment? {line : List Char} {number : Nat} {said : Option (String × String)}
    (h : assignment? number line = .ok said) : Sound line := by
  intro n err hmalformed
  have hn := assignment?_eq_error_iff.2 hmalformed
  cases hmalformed with
  | noEquals hline hequals =>
    rw [assignment?_of_noEquals number hline hequals] at h
    cases h
  | noKey hline hblank =>
    rw [assignment?_eq_error_iff.2 (.noKey hline hblank)] at h
    cases h

/-! ## Lines that are written -/

/-- A name for a variable: not empty, without white space around it and without an equals sign. -/
structure IsKey (key : List Char) : Prop where
  nonempty : key ≠ []
  trimmed : Text.Trimmed key
  noEquals : '=' ∉ key

/-- A variable and its value in double quotes, with white space beside the equals sign. -/
def quoted (key keyGap valueGap value : List Char) : List Char :=
  key ++ keyGap ++ '=' :: (valueGap ++ '"' :: (value ++ ['"']))

/-- A line is a way to write that a variable has a value, or to write nothing. -/
inductive Written : List Char → Option (String × String) → Prop
  | blank {spaces : List Char} (hspaces : Text.AllBlank spaces) : Written spaces none
  | comment {lead : List Char} (hlead : Text.AllBlank lead) (words : List Char) :
      Written (lead ++ '#' :: words) none
  /-- Neither is the line a comment, nor does it begin with the word for variables that are passed on; a key that is
  this word itself may have no space behind it. -/
  | assigned {lead key keyGap valueGap trail : List Char} (hlead : Text.AllBlank lead)
      (hkeyGap : Text.AllBlank keyGap) (hvalueGap : Text.AllBlank valueGap) (htrail : Text.AllBlank trail)
      (hkey : IsKey key) (hcomment : key.head? ≠ some '#') (hword : ¬ "export ".toList <+: key ++ keyGap)
      (value : List Char) :
      Written (lead ++ quoted key keyGap valueGap value ++ trail) (some (String.ofList key, String.ofList value))
  | exported {lead gap key keyGap valueGap trail : List Char} (hlead : Text.AllBlank lead)
      (hgap : Text.AllBlank gap) (hkeyGap : Text.AllBlank keyGap) (hvalueGap : Text.AllBlank valueGap)
      (htrail : Text.AllBlank trail) (hkey : IsKey key) (value : List Char) :
      Written (lead ++ ("export ".toList ++ (gap ++ quoted key keyGap valueGap value)) ++ trail)
        (some (String.ofList key, String.ofList value))

section

variable {line gap key keyGap valueGap : List Char} (hkey : IsKey key) (hkeyGap : Text.AllBlank keyGap)
include hkey hkeyGap

/-- A line whose body is a variable and its value in quotes sets that variable to that value. -/
theorem assignment?_of_quoted (number : Nat) (hgap : Text.AllBlank gap) (hvalueGap : Text.AllBlank valueGap)
    {value : List Char} (hline : HasBody line (gap ++ quoted key keyGap valueGap value)) :
    assignment? number line = .ok (some (String.ofList key, String.ofList value)) := by
  have hequals : '=' ∉ gap ++ key ++ keyGap := by
    simp [equals_not_mem_of_allBlank hgap, equals_not_mem_of_allBlank hkeyGap, hkey.noEquals]
  have hvalue : Text.trimChars (valueGap ++ '"' :: (value ++ ['"'])) = '"' :: (value ++ ['"']) := by
    have htrimmed : Text.Trimmed ('"' :: (value ++ ['"'])) := Text.trimmed_of_ends (by decide) (by decide) value
    simpa using Text.trimChars_between hvalueGap (List.forall_mem_nil _) htrimmed
  have hsplit : gap ++ quoted key keyGap valueGap value
      = gap ++ key ++ keyGap ++ '=' :: (valueGap ++ '"' :: (value ++ ['"'])) := by
    simp only [quoted, List.append_assoc]
  rw [hsplit] at hline
  rw [assignment?_of_equals number hline hequals, Text.trimChars_between hgap hkeyGap hkey.trimmed,
    if_neg hkey.nonempty, hvalue, unquoted_quoted]

end

/-- What is written is read. -/
theorem assignment?_of_written {line : List Char} {said : Option (String × String)} (h : Written line said)
    (number : Nat) : assignment? number line = .ok said := by
  cases h with
  | blank hspaces =>
    refine assignment?_of_noBody number fun body hline => ?_
    exact (hasBody_iff.1 hline).1 (.inl (Text.trimChars_eq_nil_iff.2 hspaces))
  | comment hlead words =>
    refine assignment?_of_noBody number fun body hline => ?_
    exact (hasBody_iff.1 hline).1 (.inr (Text.head?_trimChars hlead (by decide)))
  | @assigned lead key keyGap valueGap trail hlead hkeyGap hvalueGap htrail hkey hcomment hword value =>
    -- Trimming ends at the key in front and at the closing quote behind, whatever blanks the value has.
    obtain ⟨c, cs, rfl⟩ := List.exists_cons_of_ne_nil hkey.nonempty
    have hends : quoted (c :: cs) keyGap valueGap value
        = c :: (cs ++ keyGap ++ '=' :: (valueGap ++ '"' :: value)) ++ ['"'] := by simp [quoted]
    refine assignment?_of_quoted hkey hkeyGap number (List.forall_mem_nil _) hvalueGap
      ⟨lead, _, trail, rfl, hlead, htrail, ?_, ?_, hcomment, .inr ⟨?_, rfl⟩⟩
    · rw [hends]
      exact Text.trimmed_of_ends (hkey.trimmed.1 c rfl) (by decide) _
    · exact List.cons_ne_nil _ _
    · exact fun h => hword (prefix_of_prefix_append (by decide) h)
  | @exported lead gap key keyGap valueGap trail hlead hgap hkeyGap hvalueGap htrail hkey value =>
    refine assignment?_of_quoted hkey hkeyGap number hgap hvalueGap
      ⟨lead, _, trail, rfl, hlead, htrail, ?_, ?_, ?_, .inl rfl⟩
    · have hends : "export ".toList ++ (gap ++ quoted key keyGap valueGap value)
          = 'e' :: ("xport ".toList ++ (gap ++ (key ++ keyGap ++ '=' :: (valueGap ++ '"' :: value)))) ++ ['"'] := by
        simp [quoted]
      rw [hends]
      exact Text.trimmed_of_ends (by decide) (by decide) _
    · exact List.cons_ne_nil _ _
    · simp

/-! ## All lines -/

/-- Lays pairs of a variable and a value over an environment. -/
def laid (e : Env) (pairs : List (String × String)) : Env := pairs.foldl (fun e pair => e.assign pair.1 pair.2) e

theorem find?_laid_of_not_mem {key : String} {pairs : List (String × String)} (h : key ∉ pairs.map (·.1))
    (e : Env) : (e.laid pairs).find? key = e.find? key := by
  induction pairs generalizing e with
  | nil => rfl
  | cons pair pairs ih =>
    rw [List.map_cons, List.mem_cons, not_or] at h
    rw [laid, List.foldl_cons, ← laid, ih h.2, find?_assign, if_neg h.1]

/-- The last value laid over a variable counts. -/
theorem find?_laid_of_last {key value : String} {before after : List (String × String)}
    (h : key ∉ after.map (·.1)) (e : Env) :
    (e.laid (before ++ (key, value) :: after)).find? key = some value := by
  rw [laid, List.foldl_append, List.foldl_cons, ← laid, ← laid, find?_laid_of_not_mem h, find?_assign,
    if_pos rfl]

theorem withLines_cons {line : List Char} {number : Nat} {said : Option (String × String)}
    (h : assignment? number line = .ok said) (e : Env) (lines : List (List Char)) :
    e.withLines number (line :: lines) = (e.laid said.toList).withLines (number + 1) lines := by
  rw [withLines, h]
  cases said with
  | none => rfl
  | some pair => rfl

theorem withLines_of_written {lines : List (List Char)} {said : List (Option (String × String))}
    (h : List.Forall₂ Written lines said) (e : Env) (number : Nat) :
    e.withLines number lines = .ok (e.laid said.reduceOption) := by
  induction h generalizing e number with
  | nil => rfl
  | @cons line s lines said hline _ ih =>
    rw [withLines_cons (assignment?_of_written hline number), ih]
    cases s with
    | none => rfl
    | some pair => rfl

/-- Lines are refused just when one of them is malformed, and for the first of them that is. -/
theorem withLines_eq_error_iff {lines : List (List Char)} {e : Env} {number : Nat} {err : ConfigError} :
    e.withLines number lines = .error err ↔ ∃ before line after, lines = before ++ line :: after ∧
      (∀ earlier ∈ before, Sound earlier) ∧ Malformed line (number + before.length) err := by
  induction lines generalizing e number with
  | nil => simp [withLines]
  | cons line lines ih =>
    cases hline : assignment? number line with
    | error err' =>
      have hmalformed := assignment?_eq_error_iff.1 hline
      have herr : e.withLines number (line :: lines) = .error err' := by rw [withLines, hline]
      rw [herr]
      constructor
      · intro h
        cases h
        exact ⟨[], line, lines, rfl, List.forall_mem_nil _, hmalformed⟩
      · rintro ⟨_ | ⟨first, before⟩, line', after, hlines, hsound, hline'⟩
        · obtain ⟨rfl, rfl⟩ := List.cons.inj hlines
          rw [List.length_nil, Nat.add_zero, ← assignment?_eq_error_iff, hline] at hline'
          cases hline'
          rfl
        · obtain ⟨rfl, rfl⟩ := List.cons.inj hlines
          exact absurd hmalformed (hsound _ List.mem_cons_self _ _)
    | ok said =>
      have hsound := sound_of_assignment? hline
      rw [withLines_cons hline, ih]
      constructor
      · rintro ⟨before, line', after, rfl, hbefore, hline'⟩
        refine ⟨line :: before, line', after, rfl, List.forall_mem_cons.2 ⟨hsound, hbefore⟩, ?_⟩
        rwa [List.length_cons, Nat.add_comm before.length, ← Nat.add_assoc]
      · rintro ⟨_ | ⟨first, before⟩, line', after, hlines, hbefore, hline'⟩
        · obtain ⟨rfl, rfl⟩ := List.cons.inj hlines
          exact absurd hline' (hsound _ _)
        · obtain ⟨rfl, rfl⟩ := List.cons.inj hlines
          rw [List.length_cons, Nat.add_comm before.length, ← Nat.add_assoc] at hline'
          exact ⟨before, line', after, rfl, (List.forall_mem_cons.1 hbefore).2, hline'⟩

/-! ## Files -/

theorem linesOf_intercalate {lines : List (List Char)} (hlines : ∀ line ∈ lines, '\n' ∉ line)
    (hnil : lines ≠ []) : linesOf (String.ofList (['\n'].intercalate lines)).toList = lines := by
  rw [String.toList_ofList]
  exact List.splitOn_intercalate '\n' hlines hnil

theorem withFile_of_written {lines : List (List Char)} {said : List (Option (String × String))}
    (h : List.Forall₂ Written lines said) (hlines : ∀ line ∈ lines, '\n' ∉ line) (e : Env) :
    e.withFile (String.ofList (['\n'].intercalate lines)) = .ok (e.laid said.reduceOption) := by
  unfold withFile
  cases h with
  | nil => exact withLines_of_written (.cons (.blank (List.forall_mem_nil _)) .nil) e 1
  | cons hline hrest =>
    rw [linesOf_intercalate hlines (List.cons_ne_nil _ _), withLines_of_written (.cons hline hrest)]

/-- A file with one line for each pair of a variable and its value, among blank lines and comments, is read as
these pairs: each variable has the value of its last pair, just as it stands, and every other variable is left as it
was.  Any text at all is refused just when a line of it is malformed, for the first line that is; lines count from
one.  Taking the quotes off a value cuts its bytes between characters. -/
theorem files_round_trip (e : Env) :
    (∀ (lines : List (List Char)) (said : List (Option (String × String))), List.Forall₂ Written lines said →
      (∀ line ∈ lines, '\n' ∉ line) →
      ∃ e', e.withFile (String.ofList (['\n'].intercalate lines)) = .ok e' ∧
        (∀ before key value after, said.reduceOption = before ++ (key, value) :: after →
          key ∉ after.map (·.1) → e'.find? key = some value) ∧
        ∀ key ∉ said.reduceOption.map (·.1), e'.find? key = e.find? key) ∧
    (∀ (text : String) (err : ConfigError), e.withFile text = .error err ↔ ∃ before line after,
      linesOf text.toList = before ++ line :: after ∧ (∀ earlier ∈ before, Sound earlier) ∧
        Malformed line (1 + before.length) err) ∧
    ∀ value : List Char, unquoted value = value ∨ ∃ quote : UInt8, value.flatMap String.utf8EncodeChar
      = quote :: ((unquoted value).flatMap String.utf8EncodeChar ++ [quote]) := by
  refine ⟨fun lines said h hlines => ?_, fun text err => withLines_eq_error_iff, unquoted_bytes⟩
  refine ⟨_, withFile_of_written h hlines e, fun before key value after hsaid hlast => ?_, fun key hkey => ?_⟩
  · rw [hsaid]
    exact find?_laid_of_last hlast e
  · exact find?_laid_of_not_mem hkey e

/-- A value may hold quotes and equals signs, and of two values for a key the last one counts. -/
theorem files_round_trip_of_greetings :
    ∃ e', (Env.ofList [("OTHER", "kept")]).withFile (String.ofList (['\n'].intercalate
        ["# words".toList, [] ++ quoted "GREETING".toList [] [] "say \"hi\" = # \u00fc".toList ++ [], [],
          "  ".toList ++ ("export ".toList ++ ([] ++ quoted "GREETING".toList " ".toList [] "it's \"".toList))
            ++ "\r".toList])) = .ok e' ∧
      e'.find? "GREETING" = some "it's \"" ∧ e'.find? "OTHER" = some "kept" := by
  have htrimmed : Text.Trimmed "GREETING".toList :=
    Text.trimmed_of_ends (by decide) (by decide) "REETIN".toList
  have hkey : IsKey "GREETING".toList := ⟨by decide, htrimmed, by decide⟩
  have hcomment : Written ([] ++ '#' :: " words".toList) none := .comment (by decide) _
  have hblank : Written [] none := .blank (by decide)
  have hassigned : Written ([] ++ quoted "GREETING".toList [] [] "say \"hi\" = # \u00fc".toList ++ [])
      (some (String.ofList "GREETING".toList, String.ofList "say \"hi\" = # \u00fc".toList)) :=
    .assigned (by decide) (by decide) (by decide) (by decide) hkey (by decide) (by decide) _
  have hexported : Written ("  ".toList ++ ("export ".toList ++
        ([] ++ quoted "GREETING".toList " ".toList [] "it's \"".toList)) ++ "\r".toList)
      (some (String.ofList "GREETING".toList, String.ofList "it's \"".toList)) :=
    .exported (by decide) (by decide) (by decide) (by decide) (by decide) hkey _
  obtain ⟨e', hread, hlast, hrest⟩ := (files_round_trip (.ofList [("OTHER", "kept")])).1 _ _
    (.cons hcomment (.cons hassigned (.cons hblank (.cons hexported .nil)))) (by decide)
  have hgreeting := hlast [("GREETING", "say \"hi\" = # \u00fc")] "GREETING" "it's \"" []
  refine ⟨e', hread, hgreeting ?_ (by decide), hrest "OTHER" (by decide)⟩
  simp only [String.ofList_toList]
  rfl

end Env

end CatalogImport
