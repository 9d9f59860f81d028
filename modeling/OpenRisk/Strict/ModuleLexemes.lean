import OpenRisk.Strict.ModuleSource

/-!
# The lexical grammar of a module source

A module source as a list of lexemes: white space, comments, words, numbers, strings, regular
expressions, templates and punctuators. A name or a number of ECMAScript may be several
lexemes here; every unit of a name outside ASCII is a punctuator.

The tokenizer decides by the token before it whether a slash starts a regular expression.
Where this agrees with the lexemes (`codeSlashes`), it reads a source as its lexemes.

Results:
* `tokenizeModuleSource_code`: the tokens of a source are those of its lexemes.
-/

namespace OpenRisk.Strict

open Text Sdk PomRx

/-! ## Lexemes -/

mutual

inductive Lexeme where
  | space (u : UInt16)
  | lineComment (body : JsString)
  | blockComment (body : JsString)
  | word (value : JsString)
  | number (value : JsString)
  | string (quote : UInt16) (body : JsString)
  | regex (body flags : JsString)
  | template (template : Template)
  | punctuator (u : UInt16)
  /-- `++`, `--` or `?.`. -/
  | pair (value : JsString)
  /-- A name that starts with an escape, behind its backslash. -/
  | escape (rest : JsString)

/-- A template behind its opening backtick. -/
inductive Template where
  | tail (chunk : JsString)
  | middle (chunk : JsString) (code : List Lexeme) (rest : Template)

end

mutual

def Lexeme.text : Lexeme → JsString
  | .space u => [u]
  | .lineComment body => 0x2F :: 0x2F :: body
  | .blockComment body => 0x2F :: 0x2A :: body ++ [0x2A, 0x2F]
  | .word value => value
  | .number value => value
  | .string quote body => quote :: body ++ [quote]
  | .regex body flags => 0x2F :: body ++ 0x2F :: flags
  | .template template => 0x60 :: template.text
  | .punctuator u => [u]
  | .pair value => value
  | .escape rest => 0x5C :: rest

def Template.text : Template → JsString
  | .tail chunk => chunk ++ [0x60]
  | .middle chunk code rest => chunk ++ 0x24 :: 0x7B :: codeText code ++ 0x7D :: rest.text

def codeText : List Lexeme → JsString
  | [] => []
  | l :: ls => l.text ++ codeText ls

end

/-- The units of a string literal that are not part of an escape. -/
def unescaped : JsString → JsString
  | [] => []
  | u :: s =>
    if u = 0x5C then
      match s with
      | [] => []
      | _ :: s => unescaped s
    else u :: unescaped s

mutual

def Lexeme.tokens : Lexeme → List Token
  | .space _ | .lineComment _ | .blockComment _ | .escape _ => []
  | .word value => [.identifier value]
  | .number value => [.number value]
  | .string _ body => [.string (unescaped body) (body.contains 0x5C)]
  | .regex _ _ => [.regex]
  | .template template => template.tokens
  | .punctuator u => [.punctuator [u]]
  | .pair value => [.punctuator value]

def Template.tokens : Template → List Token
  | .tail _ => []
  | .middle _ code rest => .punctuator (js "$\x7b") :: codeTokens code ++ rest.tokens

def codeTokens : List Lexeme → List Token
  | [] => []
  | l :: ls => l.tokens ++ codeTokens ls

end

/-! ## Well-formed sources -/

/-- No unescaped quote, and every backslash has a unit behind it. -/
def isStringBody (quote : UInt16) : JsString → Bool
  | [] => true
  | u :: s =>
    if u = quote then false
    else if u = 0x5C then
      match s with
      | [] => false
      | _ :: s => isStringBody quote s
    else isStringBody quote s

/-- `RegularExpressionChars`: a slash stands in a class or behind a backslash. -/
def isRegexBody (inClass : Bool) : JsString → Bool
  | [] => !inClass
  | u :: s =>
    if u = 0x5C then
      match s with
      | [] => false
      | _ :: s => isRegexBody inClass s
    else if u = 0x5B then isRegexBody true s
    else if u = 0x5D then isRegexBody false s
    else if u = 0x2F && !inClass then false
    else isRegexBody inClass s

/-- `TemplateCharacters`. -/
def isTemplateChunk : JsString → Bool
  | [] => true
  | u :: s =>
    if u = 0x5C then
      match s with
      | [] => false
      | _ :: s => isTemplateChunk s
    else if u = 0x60 then false
    else if u = 0x24 && s.head? = some 0x7B then false
    else isTemplateChunk s

/-- A non-empty text whose first unit starts it and whose others continue it. -/
def isRun (start part : UInt16 → Bool) : JsString → Bool
  | [] => false
  | u :: s => start u && s.all part

/-- A unit that is a punctuator, or belongs to a name outside ASCII. -/
def isPunctuatorUnit (u : UInt16) : Bool :=
  !(isSpaceUnit u || u = 0x27 || u = 0x22 || u = 0x60 || u = 0x5C || isIdentifierStart u ||
    isDigitUnit u)

/-- The depth of the braces behind a lexeme; `none` where a brace closes nothing. -/
def Lexeme.depth (depth : ℕ) : Lexeme → Option ℕ
  | .punctuator u =>
    if u = 0x7B then some (depth + 1)
    else if u = 0x7D then if depth = 0 then none else some (depth - 1)
    else some depth
  | _ => some depth

/-- The depth of the braces behind the lexemes. -/
def codeDepth : ℕ → List Lexeme → Option ℕ
  | depth, [] => some depth
  | depth, l :: ls => (l.depth depth).bind fun depth => codeDepth depth ls

mutual

/-- The lexical grammar, and that a lexeme is as long as it can be before the text `after`. -/
def Lexeme.WellFormed (after : JsString) : Lexeme → Prop
  | .space u => isSpaceUnit u = true
  | .lineComment body =>
    body.any isLineTerminator = false ∧ after.head?.all isLineTerminator = true
  | .blockComment body => ¬ [0x2A, 0x2F] <:+: body
  | .word value =>
    isRun isIdentifierStart isIdentifierPart value = true ∧
      after.head?.any isIdentifierPart = false
  | .number value =>
    isRun isDigitUnit isNumberPart value = true ∧ after.head?.any isNumberPart = false
  | .string quote body => (quote = 0x27 ∨ quote = 0x22) ∧ isStringBody quote body = true
  | .regex body flags =>
    body ≠ [] ∧ body.head? ≠ some 0x2A ∧ isRegexBody false body = true ∧
      flags.all isLetterUnit = true ∧ after.head?.any isLetterUnit = false
  | .template template => template.WellFormed
  | .punctuator u =>
    isPunctuatorUnit u = true ∧ isPair (u :: after.take 1) = false ∧
      (u = 0x2F → after.head? ≠ some 0x2F ∧ after.head? ≠ some 0x2A)
  | .pair value => isPair value = true
  | .escape _ => True

/-- The braces of a substitution are balanced. -/
def Template.WellFormed : Template → Prop
  | .tail chunk => isTemplateChunk chunk = true
  | .middle chunk code rest =>
    isTemplateChunk chunk = true ∧ codeWellFormed (0x7D :: rest.text) code ∧
      codeDepth 0 code = some 0 ∧ rest.WellFormed

def codeWellFormed (after : JsString) : List Lexeme → Prop
  | [] => True
  | l :: ls => l.WellFormed (codeText ls ++ after) ∧ codeWellFormed after ls

end

/-! ## Slashes -/

mutual

/-- Behind the tokens `before`, `canStartRegex` tells a regular expression from a division. -/
def Lexeme.Slashes (before : List Token) : Lexeme → Prop
  | .regex _ _ => canStartRegex before = true
  | .punctuator u => u = 0x2F → canStartRegex before = false
  | .template template => template.Slashes before
  | _ => True

def Template.Slashes (before : List Token) : Template → Prop
  | .tail _ => True
  | .middle _ code rest =>
    codeSlashes (before ++ [.punctuator (js "$\x7b")]) code ∧
      rest.Slashes (before ++ .punctuator (js "$\x7b") :: codeTokens code)

def codeSlashes (before : List Token) : List Lexeme → Prop
  | [] => True
  | l :: ls => l.Slashes before ∧ codeSlashes (before ++ l.tokens) ls

end

/-! ## Scanners on lexemes -/

theorem takeWhile_append_run {p : UInt16 → Bool} {s after : JsString} (hs : s.all p = true)
    (hafter : after.head?.any p = false) : (s ++ after).takeWhile p = s := by
  have hnil : after.takeWhile p = [] := by
    cases after with
    | nil => rfl
    | cons u after => exact List.takeWhile_cons_of_neg (by simpa using hafter)
  rw [List.takeWhile_append_of_pos (List.all_eq_true.mp hs), hnil, List.append_nil]

theorem dropWhile_append_run {p : UInt16 → Bool} {s after : JsString} (hs : s.all p = true)
    (hafter : after.head?.any p = false) : (s ++ after).dropWhile p = after := by
  have hnil : after.dropWhile p = after := by
    cases after with
    | nil => rfl
    | cons u after => exact List.dropWhile_cons_of_neg (by simpa using hafter)
  rw [List.dropWhile_append_of_pos (List.all_eq_true.mp hs), hnil]

theorem scanQuoted_cons {quote u : UInt16} {s : JsString} (hu : u ≠ 0x5C) :
    scanQuoted quote (u :: s) =
      if u = quote then some ([], false, s)
      else if isLineTerminator u then none
      else (scanQuoted quote s).map fun r => (u :: r.1, r.2.1, r.2.2) := by
  rw [scanQuoted.eq_def]
  simp only [hu, if_false]

theorem scanRegularExpression_cons {inClass : Bool} {u : UInt16} {s : JsString} (hu : u ≠ 0x5C) :
    scanRegularExpression inClass (u :: s) =
      if u = 0x5B then scanRegularExpression true s
      else if u = 0x5D then scanRegularExpression false s
      else if u = 0x2F && !inClass then some (s.dropWhile isLetterUnit)
      else if isLineTerminator u then none
      else scanRegularExpression inClass s := by
  rw [scanRegularExpression.eq_def]
  simp only [hu, if_false]

theorem unescaped_cons {u : UInt16} {s : JsString} (hu : u ≠ 0x5C) :
    unescaped (u :: s) = u :: unescaped s := by
  rw [unescaped.eq_def]
  simp only [hu, if_false]

theorem scanQuoted_body {quote : UInt16} {body rest : JsString} {r : JsString × Bool × JsString}
    (hquote : quote ≠ 0x5C) (hbody : isStringBody quote body = true)
    (h : scanQuoted quote (body ++ quote :: rest) = some r) :
    r = (unescaped body, body.contains 0x5C, rest) := by
  fun_induction isStringBody quote body generalizing r with
  | case1 =>
    rw [List.nil_append, scanQuoted_cons hquote, if_pos rfl] at h
    exact (Option.some.inj h).symm
  | case2 | case3 => cases hbody
  | case4 v s hv ih =>
    rw [List.cons_append, List.cons_append, scanQuoted, if_neg hv, if_pos rfl] at h
    obtain ⟨r', hr', rfl⟩ := Option.map_eq_some_iff.mp h
    rw [ih hbody hr', unescaped, if_pos rfl]
    simp
  | case5 u s hu hbackslash ih =>
    rw [List.cons_append, scanQuoted_cons hbackslash, if_neg hu] at h
    split at h
    · cases h
    · obtain ⟨r', hr', rfl⟩ := Option.map_eq_some_iff.mp h
      rw [ih hbody hr', unescaped_cons hbackslash, List.contains_cons]
      simp [Ne.symm hbackslash]

theorem scanRegularExpression_body {inClass : Bool} {body flags after r : JsString}
    (hbody : isRegexBody inClass body = true) (hflags : flags.all isLetterUnit = true)
    (hafter : after.head?.any isLetterUnit = false)
    (h : scanRegularExpression inClass (body ++ 0x2F :: (flags ++ after)) = some r) :
    r = after := by
  fun_induction isRegexBody inClass body with
  | case1 inClass =>
    have hclass : inClass = false := by simpa using hbody
    rw [List.nil_append, scanRegularExpression_cons (by decide), if_neg (by decide),
      if_neg (by decide), if_pos (by simp [hclass]), dropWhile_append_run hflags hafter] at h
    exact (Option.some.inj h).symm
  | case2 | case6 => cases hbody
  | case3 inClass v s ih =>
    rw [List.cons_append, List.cons_append, scanRegularExpression, if_pos rfl] at h
    exact ih hbody h
  | case4 inClass s hbackslash ih =>
    rw [List.cons_append, scanRegularExpression_cons hbackslash, if_pos rfl] at h
    exact ih hbody h
  | case5 inClass s hbackslash hopen ih =>
    rw [List.cons_append, scanRegularExpression_cons hbackslash, if_neg hopen, if_pos rfl] at h
    exact ih hbody h
  | case7 inClass u s hbackslash hopen hclose hslash ih =>
    rw [List.cons_append, scanRegularExpression_cons hbackslash, if_neg hopen, if_neg hclose,
      if_neg hslash] at h
    split at h
    · cases h
    · exact ih hbody h

theorem afterBlockComment_body {body rest : JsString} (hbody : ¬ [0x2A, 0x2F] <:+: body) :
    afterBlockComment (body ++ 0x2A :: 0x2F :: rest) = some rest := by
  induction body with
  | nil => rfl
  | cons u s ih =>
    rw [List.cons_append, afterBlockComment, if_neg, ih fun h => hbody (h.trans (List.suffix_cons u s).isInfix)]
    intro hend
    rw [Bool.and_eq_true, decide_eq_true_eq, decide_eq_true_eq] at hend
    obtain ⟨rfl, hhead⟩ := hend
    cases s with
    | nil => simp at hhead
    | cons v s =>
      obtain rfl : v = 0x2F := by simpa using hhead
      exact hbody ⟨[], s, rfl⟩

theorem scanTemplate_chunk {path : JsString} {fuel : ℕ} {tokens : List Token}
    {chunk rest : JsString} {r : List Token × JsString} (hchunk : isTemplateChunk chunk = true)
    (hrest : rest.head? ≠ some 0x7B) (h : scanTemplate path fuel tokens (chunk ++ rest) = .ok r) :
    ∃ fuel', scanTemplate path fuel' tokens rest = .ok r := by
  fun_induction isTemplateChunk chunk generalizing fuel with
  | case1 => exact ⟨fuel, h⟩
  | case2 | case4 | case5 => cases hchunk
  | case3 v s ih =>
    cases fuel with
    | zero => cases h
    | succ fuel =>
      rw [List.cons_append, List.cons_append, scanTemplate, if_pos rfl] at h
      exact ih hchunk h
  | case6 u s hbackslash hbacktick hdollar ih =>
    cases fuel with
    | zero => cases h
    | succ fuel =>
      have hopen : ¬ (decide (u = 0x24) && decide ((s ++ rest).head? = some 0x7B)) = true := by
        cases s with
        | nil => simp [hrest]
        | cons v s => exact hdollar
      rw [List.cons_append, scanTemplate, if_neg hbackslash, if_neg hbacktick, if_neg hopen] at h
      exact ih hchunk h

/-! ## One lexeme -/

section Units

variable {path : JsString} {tokens : List Token} {u : UInt16} {s after : JsString}

/-- A unit that starts no white space, comment, literal or escape. -/
structure Plain (u : UInt16) (s : JsString) : Prop where
  space : isSpaceUnit u = false
  comment : u = 0x2F → s.head? ≠ some 0x2F ∧ s.head? ≠ some 0x2A
  quote : u ≠ 0x27 ∧ u ≠ 0x22
  backtick : u ≠ 0x60
  backslash : u ≠ 0x5C

/-- The tests that are left for such a unit. -/
theorem readUnit_of_plain (h : Plain u s) :
    readUnit path tokens u s =
      if isIdentifierStart u then
        .ok (.next [.identifier (u :: s.takeWhile isIdentifierPart)] (s.dropWhile isIdentifierPart))
      else if isDigitUnit u then
        .ok (.next [.number (u :: s.takeWhile isNumberPart)] (s.dropWhile isNumberPart))
      else if u = 0x2F && canStartRegex tokens then
        match scanRegularExpression false s with
        | some rest => .ok (.next [.regex] rest)
        | none => malformed path .regularExpression
      else if u = 0x7B then .ok (.openBrace s)
      else if u = 0x7D then .ok (.closeBrace s)
      else if isPair (u :: s.take 1) then .ok (.next [.punctuator (u :: s.take 1)] s.tail)
      else .ok (.next [.punctuator [u]] s) := by
  have hline : ¬ (decide (u = 0x2F) && decide (s.head? = some 0x2F)) = true := by
    simpa using fun hu => (h.comment hu).1
  have hblock : ¬ (decide (u = 0x2F) && decide (s.head? = some 0x2A)) = true := by
    simpa using fun hu => (h.comment hu).2
  have hquote : ¬ (decide (u = 0x27) || decide (u = 0x22)) = true := by
    simpa using h.quote
  rw [readUnit, if_neg (by simp [h.space]), if_neg hline, if_neg hblock, if_neg hquote,
    if_neg h.backtick]
  exact if_neg h.backslash

theorem plain_of_identifierStart (h : isIdentifierStart u = true) : Plain u s := by
  have hfacts : isSpaceUnit u = false ∧ u ≠ 0x2F ∧ u ≠ 0x27 ∧ u ≠ 0x22 ∧ u ≠ 0x60 ∧ u ≠ 0x5C := by
    simp only [isIdentifierStart, isLetterUnit, isSpaceUnit, Bool.or_eq_true, Bool.and_eq_true,
      decide_eq_true_eq, ← UInt16.toNat_inj, Bool.or_eq_false_iff, Bool.and_eq_false_iff,
      decide_eq_false_iff_not, ne_eq, UInt16.reduceToNat] at *
    omega
  exact ⟨hfacts.1, fun hu => absurd hu hfacts.2.1, ⟨hfacts.2.2.1, hfacts.2.2.2.1⟩,
    hfacts.2.2.2.2.1, hfacts.2.2.2.2.2⟩

theorem plain_of_digit (h : isDigitUnit u = true) : Plain u s ∧ isIdentifierStart u = false := by
  have hfacts : isSpaceUnit u = false ∧ u ≠ 0x2F ∧ u ≠ 0x27 ∧ u ≠ 0x22 ∧ u ≠ 0x60 ∧ u ≠ 0x5C ∧
      isIdentifierStart u = false := by
    simp only [isIdentifierStart, isDigitUnit, isLetterUnit, isSpaceUnit, Bool.and_eq_true,
      decide_eq_true_eq, ← UInt16.toNat_inj, Bool.or_eq_false_iff, Bool.and_eq_false_iff,
      decide_eq_false_iff_not, ne_eq, UInt16.reduceToNat] at *
    omega
  exact ⟨⟨hfacts.1, fun hu => absurd hu hfacts.2.1, ⟨hfacts.2.2.1, hfacts.2.2.2.1⟩,
    hfacts.2.2.2.2.1, hfacts.2.2.2.2.2.1⟩, hfacts.2.2.2.2.2.2⟩

theorem plain_of_punctuator (h : isPunctuatorUnit u = true)
    (hslash : u = 0x2F → s.head? ≠ some 0x2F ∧ s.head? ≠ some 0x2A) :
    Plain u s ∧ isIdentifierStart u = false ∧ isDigitUnit u = false := by
  simp only [isPunctuatorUnit, Bool.not_eq_true', Bool.or_eq_false_iff,
    decide_eq_false_iff_not] at h
  obtain ⟨⟨⟨⟨⟨⟨hspace, hsingle⟩, hdouble⟩, hbacktick⟩, hbackslash⟩, hword⟩, hdigit⟩ := h
  exact ⟨⟨hspace, hslash, ⟨hsingle, hdouble⟩, hbacktick, hbackslash⟩, hword, hdigit⟩

theorem readUnit_word {value : JsString}
    (hvalue : isRun isIdentifierStart isIdentifierPart value = true)
    (hafter : after.head?.any isIdentifierPart = false) (htext : value ++ after = u :: s) :
    readUnit path tokens u s = .ok (.next [.identifier value] after) := by
  cases value with
  | nil => cases hvalue
  | cons v value =>
    obtain ⟨rfl, hs⟩ := List.cons.inj htext
    obtain rfl : s = value ++ after := hs.symm
    obtain ⟨hstart, hpart⟩ := Bool.and_eq_true_iff.mp hvalue
    rw [readUnit_of_plain (plain_of_identifierStart hstart), if_pos hstart,
      takeWhile_append_run hpart hafter, dropWhile_append_run hpart hafter]

theorem readUnit_number {value : JsString} (hvalue : isRun isDigitUnit isNumberPart value = true)
    (hafter : after.head?.any isNumberPart = false) (htext : value ++ after = u :: s) :
    readUnit path tokens u s = .ok (.next [.number value] after) := by
  cases value with
  | nil => cases hvalue
  | cons v value =>
    obtain ⟨rfl, hs⟩ := List.cons.inj htext
    obtain rfl : s = value ++ after := hs.symm
    obtain ⟨hstart, hpart⟩ := Bool.and_eq_true_iff.mp hvalue
    obtain ⟨hplain, hword⟩ := @plain_of_digit v (value ++ after) hstart
    rw [readUnit_of_plain hplain, if_neg (by simp [hword]), if_pos hstart,
      takeWhile_append_run hpart hafter, dropWhile_append_run hpart hafter]

theorem readUnit_string {body : JsString} {read : Read} (hquote : u = 0x27 ∨ u = 0x22)
    (hbody : isStringBody u body = true)
    (h : readUnit path tokens u (body ++ u :: after) = .ok read) :
    read = .next [.string (unescaped body) (body.contains 0x5C)] after := by
  have hfacts : isSpaceUnit u = false ∧ u ≠ 0x2F ∧ u ≠ 0x5C := by
    rcases hquote with rfl | rfl <;> decide
  rw [readUnit, if_neg (by simp [hfacts.1]), if_neg (by simp [hfacts.2.1]),
    if_neg (by simp [hfacts.2.1]), if_pos (by simpa using hquote)] at h
  split at h
  · rename_i value escaped rest hscan
    obtain ⟨rfl, hrest⟩ := Prod.mk.inj (scanQuoted_body hfacts.2.2 hbody hscan)
    obtain ⟨rfl, rfl⟩ := Prod.mk.inj hrest
    exact (Except.ok.inj h).symm
  · cases h

theorem readUnit_regex {body flags : JsString} {read : Read} (hne : body ≠ [])
    (hstar : body.head? ≠ some 0x2A) (hbody : isRegexBody false body = true)
    (hflags : flags.all isLetterUnit = true) (hafter : after.head?.any isLetterUnit = false)
    (hstart : canStartRegex tokens = true)
    (h : readUnit path tokens 0x2F (body ++ 0x2F :: (flags ++ after)) = .ok read) :
    read = .next [.regex] after := by
  have hplain : Plain 0x2F (body ++ 0x2F :: (flags ++ after)) := by
    refine ⟨by decide, fun _ => ?_, by decide, by decide, by decide⟩
    cases body with
    | nil => exact absurd rfl hne
    | cons v body =>
      refine ⟨fun hslash => ?_, hstar⟩
      obtain rfl : v = 0x2F := Option.some.inj hslash
      rw [isRegexBody.eq_def] at hbody
      exact absurd hbody (by simp)
  rw [readUnit_of_plain hplain, if_neg (by decide), if_neg (by decide),
    if_pos (by simp [hstart])] at h
  split at h
  · rename_i rest hscan
    rw [scanRegularExpression_body hbody hflags hafter hscan] at h
    exact (Except.ok.inj h).symm
  · cases h

/-- A punctuator that is no brace. -/
theorem readUnit_punctuator (hu : isPunctuatorUnit u = true)
    (hpair : isPair (u :: after.take 1) = false)
    (hcomment : u = 0x2F → after.head? ≠ some 0x2F ∧ after.head? ≠ some 0x2A)
    (hslash : u = 0x2F → canStartRegex tokens = false) (hopen : u ≠ 0x7B) (hclose : u ≠ 0x7D) :
    readUnit path tokens u after = .ok (.next [.punctuator [u]] after) := by
  obtain ⟨hplain, hword, hdigit⟩ := plain_of_punctuator hu hcomment
  rw [readUnit_of_plain hplain, if_neg (by simp [hword]), if_neg (by simp [hdigit]),
    if_neg (by simpa using hslash), if_neg hopen, if_neg hclose, if_neg (by simp [hpair])]

theorem readUnit_pair {value : JsString} (hvalue : isPair value = true)
    (htext : value ++ after = u :: s) :
    readUnit path tokens u s = .ok (.next [.punctuator value] after) := by
  have hcases : value = js "++" ∨ value = js "--" ∨ value = js "?." := by
    simpa [isPair] using hvalue
  rcases hcases with rfl | rfl | rfl <;>
  · obtain ⟨rfl, rfl⟩ := List.cons.inj htext
    rfl

end Units

/-! ## The scan of a source -/

/-- The text behind a lexeme matters by its first unit only. -/
theorem Lexeme.WellFormed.congr {a b : JsString} {l : Lexeme} (hab : a.take 1 = b.take 1)
    (h : l.WellFormed a) : l.WellFormed b := by
  have hhead : a.head? = b.head? := by
    have htake : ∀ s : JsString, s.head? = (s.take 1).head? := fun s => by cases s <;> rfl
    rw [htake a, hab, ← htake b]
  cases l with
  | space | blockComment | string | template | pair | escape => exact h
  | lineComment | word | number | regex =>
    simp only [Lexeme.WellFormed] at h ⊢
    rwa [← hhead]
  | punctuator =>
    simp only [Lexeme.WellFormed] at h ⊢
    rwa [← hhead, ← hab]

theorem codeWellFormed_congr {a b : JsString} {ls : List Lexeme} (hab : a.take 1 = b.take 1)
    (h : codeWellFormed a ls) : codeWellFormed b ls := by
  induction ls with
  | nil => trivial
  | cons l ls ih =>
    refine ⟨h.1.congr ?_, ih h.2⟩
    rw [List.take_append, List.take_append]
    cases codeText ls with
    | nil => simpa using hab
    | cons u s => simp

section Scan

variable {path : JsString} {fuel : ℕ} {stop : Bool} {depth : ℕ} {tokens : List Token}
  {r : List Token × JsString}

theorem scanCode_cons {u : UInt16} {s : JsString}
    (h : scanCode path fuel stop depth tokens (u :: s) = .ok r) :
    ∃ fuel' read, readUnit path tokens u s = .ok read ∧
      match read with
      | .next pushed rest => scanCode path fuel' stop depth (tokens ++ pushed) rest = .ok r
      | .template rest => ∃ r', scanTemplate path fuel' tokens rest = .ok r' ∧
          scanCode path fuel' stop depth r'.1 r'.2 = .ok r
      | .openBrace rest =>
        scanCode path fuel' stop (depth + 1) (tokens ++ [.punctuator (js "\x7b")]) rest = .ok r
      | .closeBrace rest =>
        if depth = 0 then stop = true ∧ r = (tokens, rest)
        else scanCode path fuel' stop (depth - 1) (tokens ++ [.punctuator (js "\x7d")]) rest =
          .ok r := by
  cases fuel with
  | zero => cases h
  | succ fuel =>
    rw [scanCode] at h
    obtain ⟨read, hread, h⟩ := bind_eq_ok.mp h
    refine ⟨fuel, read, hread, ?_⟩
    cases read with
    | next pushed rest => exact h
    | template rest =>
      obtain ⟨r', hr', h⟩ := bind_eq_ok.mp h
      exact ⟨r', hr', h⟩
    | openBrace rest => exact h
    | closeBrace rest =>
      cases depth with
      | zero =>
        cases stop with
        | false => cases h
        | true => exact ⟨rfl, (Except.ok.inj h).symm⟩
      | succ depth => exact h

/-- Where a unit can only be read as `pushed`, the scan goes on behind it. -/
theorem scanCode_next {u : UInt16} {s after : JsString} {pushed : List Token}
    (hread : ∀ read, readUnit path tokens u s = .ok read → read = .next pushed after)
    (h : scanCode path fuel stop depth tokens (u :: s) = .ok r) :
    ∃ fuel', scanCode path fuel' stop depth (tokens ++ pushed) after = .ok r := by
  obtain ⟨fuel', read, hunit, h⟩ := scanCode_cons h
  obtain rfl := hread read hunit
  exact ⟨fuel', h⟩

theorem isRun_ne_nil {start part : UInt16 → Bool} {value : JsString}
    (h : isRun start part value = true) : ∃ u s, value = u :: s := by
  cases value with
  | nil => cases h
  | cons u s => exact ⟨u, s, rfl⟩

theorem scanCode_openBrace {after : JsString}
    (h : scanCode path fuel stop depth tokens (0x7B :: after) = .ok r) :
    ∃ fuel', scanCode path fuel' stop (depth + 1) (tokens ++ [Token.punctuator [0x7B]]) after = .ok r := by
  obtain ⟨fuel', read, hread, h⟩ := scanCode_cons h
  have hread' : readUnit path tokens 0x7B after = .ok (.openBrace after) := rfl
  obtain rfl := Except.ok.inj (hread.symm.trans hread')
  exact ⟨fuel', h⟩

theorem scanCode_closeBrace {after : JsString}
    (h : scanCode path fuel stop depth tokens (0x7D :: after) = .ok r)
    (hstop : stop = true → depth ≠ 0) :
    depth ≠ 0 ∧ ∃ fuel',
      scanCode path fuel' stop (depth - 1) (tokens ++ [Token.punctuator [0x7D]]) after = .ok r := by
  obtain ⟨fuel', read, hread, h⟩ := scanCode_cons h
  have hread' : readUnit path tokens 0x7D after = .ok (.closeBrace after) := rfl
  obtain rfl := Except.ok.inj (hread.symm.trans hread')
  by_cases hdepth : depth = 0
  · simp only [if_pos hdepth] at h
    exact absurd hdepth (hstop h.1)
  · simp only [hdepth, if_false] at h
    exact ⟨hdepth, fuel', h⟩

/-- The end of a substitution. -/
theorem scanCode_substitution_end {after : JsString}
    (h : scanCode path fuel true 0 tokens (0x7D :: after) = .ok r) : r = (tokens, after) := by
  obtain ⟨fuel', read, hread, h⟩ := scanCode_cons h
  have hread' : readUnit path tokens 0x7D after = .ok (.closeBrace after) := rfl
  obtain rfl := Except.ok.inj (hread.symm.trans hread')
  exact h.2

/-- A lexeme without lexemes in it. -/
theorem scanCode_simple {after : JsString} {l : Lexeme} (hl : ∀ t, l ≠ .template t)
    (hwf : l.WellFormed after) (hslash : l.Slashes tokens)
    (hstop : stop = true → l.depth depth ≠ none)
    (h : scanCode path fuel stop depth tokens (l.text ++ after) = .ok r) :
    ∃ fuel' depth', l.depth depth = some depth' ∧
      scanCode path fuel' stop depth' (tokens ++ l.tokens) after = .ok r := by
  -- all but the braces leave the depth as it is
  suffices hnext : (∀ u, l ≠ .punctuator u) →
      ∃ fuel', scanCode path fuel' stop depth (tokens ++ l.tokens) after = .ok r by
    cases l with
    | punctuator u =>
      obtain ⟨hu, hpair, hcomment⟩ := hwf
      by_cases hopen : u = 0x7B
      · subst hopen
        obtain ⟨fuel', h⟩ := scanCode_openBrace h
        exact ⟨fuel', depth + 1, rfl, h⟩
      by_cases hclose : u = 0x7D
      · subst hclose
        have hdepth : (Lexeme.punctuator 0x7D).depth depth =
            if depth = 0 then none else some (depth - 1) := rfl
        rw [hdepth] at hstop ⊢
        obtain ⟨hne, fuel', h⟩ := scanCode_closeBrace h (by simpa using hstop)
        exact ⟨fuel', depth - 1, if_neg hne, h⟩
      · obtain ⟨fuel', h⟩ := scanCode_next (fun read hread => Except.ok.inj (hread.symm.trans
          (readUnit_punctuator hu hpair hcomment hslash hopen hclose))) h
        exact ⟨fuel', depth, by simp [Lexeme.depth, hopen, hclose], h⟩
    | _ =>
      obtain ⟨fuel', h⟩ := hnext (by simp)
      exact ⟨fuel', depth, rfl, h⟩
  intro hpunctuator
  cases l with
  | space u =>
    have hu : isSpaceUnit u = true := hwf
    refine scanCode_next (fun read hread => ?_) h
    rw [readUnit, if_pos hu] at hread
    exact (Except.ok.inj hread).symm
  | lineComment body =>
    obtain ⟨hbody, hafter⟩ := hwf
    refine scanCode_next (fun read hread => ?_) h
    rw [readUnit, if_neg (by decide), if_pos (by rfl)] at hread
    have hdrop : (body ++ after).dropWhile (fun v => !isLineTerminator v) = after := by
      refine dropWhile_append_run ?_ ?_
      · simpa using hbody
      · cases after with
        | nil => rfl
        | cons v after => simpa using hafter
    rw [← hdrop]
    exact (Except.ok.inj hread).symm
  | blockComment body =>
    have hbody : ¬ [0x2A, 0x2F] <:+: body := hwf
    have htext : (Lexeme.blockComment body).text ++ after =
        0x2F :: 0x2A :: (body ++ 0x2A :: 0x2F :: after) := by
      simp [Lexeme.text]
    rw [htext] at h
    refine scanCode_next (fun read hread => ?_) h
    rw [readUnit, if_neg (by decide), if_neg (by simp), if_pos (by rfl), List.tail_cons,
      afterBlockComment_body hbody] at hread
    exact (Except.ok.inj hread).symm
  | word value =>
    obtain ⟨hvalue, hafter⟩ := hwf
    obtain ⟨u, s, hus⟩ := isRun_ne_nil hvalue
    have htext : value ++ after = u :: (s ++ after) := by rw [hus, List.cons_append]
    rw [Lexeme.text, htext] at h
    exact scanCode_next (fun read hread =>
      Except.ok.inj (hread.symm.trans (readUnit_word hvalue hafter htext))) h
  | number value =>
    obtain ⟨hvalue, hafter⟩ := hwf
    obtain ⟨u, s, hus⟩ := isRun_ne_nil hvalue
    have htext : value ++ after = u :: (s ++ after) := by rw [hus, List.cons_append]
    rw [Lexeme.text, htext] at h
    exact scanCode_next (fun read hread =>
      Except.ok.inj (hread.symm.trans (readUnit_number hvalue hafter htext))) h
  | string quote body =>
    obtain ⟨hquote, hbody⟩ := hwf
    have htext : (Lexeme.string quote body).text ++ after = quote :: (body ++ quote :: after) := by
      simp [Lexeme.text]
    rw [htext] at h
    exact scanCode_next (fun read hread => readUnit_string hquote hbody hread) h
  | regex body flags =>
    obtain ⟨hne, hstar, hbody, hflags, hafter⟩ := hwf
    have htext : (Lexeme.regex body flags).text ++ after =
        0x2F :: (body ++ 0x2F :: (flags ++ after)) := by
      simp [Lexeme.text]
    rw [htext] at h
    exact scanCode_next
      (fun read hread => readUnit_regex hne hstar hbody hflags hafter hslash hread) h
  | template t => exact absurd rfl (hl t)
  | punctuator u => exact absurd rfl (hpunctuator u)
  | pair value =>
    have hvalue : isPair value = true := hwf
    have hne : ∃ u s, value = u :: s := by
      cases value with
      | nil => exact absurd hvalue (by decide)
      | cons u s => exact ⟨u, s, rfl⟩
    obtain ⟨u, s, hus⟩ := hne
    have htext : value ++ after = u :: (s ++ after) := by rw [hus, List.cons_append]
    rw [Lexeme.text, htext] at h
    exact scanCode_next (fun read hread =>
      Except.ok.inj (hread.symm.trans (readUnit_pair hvalue htext))) h
  | escape rest =>
    obtain ⟨fuel', read, hread, -⟩ := scanCode_cons h
    have herror : readUnit path tokens 0x5C (rest ++ after) =
        malformed path .escapedIdentifier := rfl
    cases hread.symm.trans herror

mutual

theorem scanCode_lexeme {after : JsString} {fuel : ℕ} {stop : Bool} {depth : ℕ}
    {tokens : List Token} {r : List Token × JsString} (l : Lexeme) (hwf : l.WellFormed after)
    (hslash : l.Slashes tokens) (hstop : stop = true → l.depth depth ≠ none)
    (h : scanCode path fuel stop depth tokens (l.text ++ after) = .ok r) :
    ∃ fuel' depth', l.depth depth = some depth' ∧
      scanCode path fuel' stop depth' (tokens ++ l.tokens) after = .ok r :=
  match l with
  | .template t => by
    rw [Lexeme.text, List.cons_append] at h
    obtain ⟨fuel', read, hread, h⟩ := scanCode_cons h
    have hread' : readUnit path tokens 0x60 (t.text ++ after) = .ok (.template (t.text ++ after)) :=
      rfl
    obtain rfl := Except.ok.inj (hread.symm.trans hread')
    obtain ⟨r', hr', h⟩ := h
    obtain rfl := scanTemplate_template t hwf hslash hr'
    exact ⟨fuel', depth, rfl, h⟩
  | .space _ | .lineComment _ | .blockComment _ | .word _ | .number _ | .string _ _
  | .regex _ _ | .punctuator _ | .pair _ | .escape _ =>
    scanCode_simple (by simp) hwf hslash hstop h

theorem scanTemplate_template {after : JsString} {fuel : ℕ} {tokens : List Token}
    {r : List Token × JsString} (t : Template) (hwf : t.WellFormed) (hslash : t.Slashes tokens)
    (h : scanTemplate path fuel tokens (t.text ++ after) = .ok r) :
    r = (tokens ++ t.tokens, after) :=
  match t with
  | .tail chunk => by
    have hchunk : isTemplateChunk chunk = true := hwf
    rw [Template.text, List.append_assoc] at h
    obtain ⟨fuel, h⟩ := scanTemplate_chunk hchunk (by simp) h
    cases fuel with
    | zero => cases h
    | succ fuel =>
      have htail : r = (tokens, after) := (Except.ok.inj h).symm
      rw [htail, Template.tokens, List.append_nil]
  | .middle chunk code rest => by
    obtain ⟨hchunk, hcode, hdepth, hrest⟩ := hwf
    obtain ⟨hslashCode, hslashRest⟩ := hslash
    have htext : (Template.middle chunk code rest).text ++ after =
        chunk ++ 0x24 :: 0x7B :: (codeText code ++ 0x7D :: (rest.text ++ after)) := by
      simp [Template.text]
    rw [htext] at h
    obtain ⟨fuel, h⟩ := scanTemplate_chunk hchunk (by simp) h
    cases fuel with
    | zero => cases h
    | succ fuel =>
      rw [scanTemplate, if_neg (by decide), if_neg (by decide), if_pos (by rfl)] at h
      obtain ⟨r', hr', h⟩ := bind_eq_ok.mp h
      have hstop : true = true → codeDepth 0 code ≠ none := by simp [hdepth]
      have hwf : codeWellFormed (0x7D :: (rest.text ++ after)) code :=
        codeWellFormed_congr (by simp) hcode
      obtain ⟨fuel', depth', hdepth', hr'⟩ :=
        scanCode_code code hwf hslashCode hstop hr'
      obtain rfl : depth' = 0 := Option.some.inj (hdepth'.symm.trans hdepth)
      obtain rfl := scanCode_substitution_end hr'
      have := scanTemplate_template rest hrest (by simpa using hslashRest) h
      simpa [Template.tokens] using this

theorem scanCode_code {after : JsString} {fuel : ℕ} {stop : Bool} {depth : ℕ}
    {tokens : List Token} {r : List Token × JsString} (ls : List Lexeme)
    (hwf : codeWellFormed after ls) (hslash : codeSlashes tokens ls)
    (hstop : stop = true → codeDepth depth ls ≠ none)
    (h : scanCode path fuel stop depth tokens (codeText ls ++ after) = .ok r) :
    ∃ fuel' depth', codeDepth depth ls = some depth' ∧
      scanCode path fuel' stop depth' (tokens ++ codeTokens ls) after = .ok r :=
  match ls with
  | [] => ⟨fuel, depth, rfl, by rwa [codeTokens, List.append_nil]⟩
  | l :: ls => by
    rw [codeText, List.append_assoc] at h
    have hlexeme : stop = true → l.depth depth ≠ none := by
      intro hs hnone
      refine hstop hs ?_
      rw [codeDepth, hnone, Option.bind_none]
    obtain ⟨fuel', depth', hdepth, h⟩ := scanCode_lexeme l hwf.1 hslash.1 hlexeme h
    rw [codeDepth, hdepth, Option.bind_some] at hstop ⊢
    obtain ⟨fuel', depth', hdepth', h⟩ := scanCode_code ls hwf.2 hslash.2 hstop h
    exact ⟨fuel', depth', hdepth', by rwa [codeTokens, ← List.append_assoc]⟩

end

end Scan

/-- Where every slash is read right, the tokens of a source are those of its lexemes. -/
theorem tokenizeModuleSource_code {path : JsString} {ls : List Lexeme} {tokens : List Token}
    (hwf : codeWellFormed [] ls) (hslash : codeSlashes [] ls)
    (h : tokenizeModuleSource path (codeText ls) = .ok tokens) : tokens = codeTokens ls := by
  obtain ⟨r, hr, rfl⟩ := map_eq_ok.mp h
  rw [← List.append_nil (codeText ls)] at hr
  obtain ⟨fuel, depth, -, hend⟩ := scanCode_code ls hwf hslash (by simp) hr
  cases fuel with
  | zero => cases hend
  | succ fuel =>
    obtain rfl : (codeTokens ls, []) = r := Except.ok.inj hend
    rfl

end OpenRisk.Strict
