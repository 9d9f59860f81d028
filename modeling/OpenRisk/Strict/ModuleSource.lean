import OpenRisk.Strict.ArtifactDigest
import OpenRisk.Text.Utf8

/-!
# The static imports of a module source

`staticLocalDependencies` (`sdk/typescript/internal/pom-rx-v01-artifact-identity.mjs`, lines
203–442) reads a module source into tokens and looks for the module specifiers of its
`import` and `export` declarations. Sources are lists of code units; the scanners take what
is left of the source and return what follows the part they read.

Results:
* `tokenizeModuleSource_ne_rangeError`: the fuel of the scanners is enough.
* `staticLocalDependencies_eq_ok`: the returned list holds what the loop adds at some token,
  and nothing else.
-/

namespace OpenRisk.Strict

open Text Sdk PomRx

/-! ## Tokens -/

inductive TokenType where
  | identifier
  | number
  | string
  | regex
  | punctuator
  deriving DecidableEq

structure Token where
  type : TokenType
  value : JsString
  /-- Whether a string literal has a backslash; its value leaves the escapes out. -/
  escaped : Bool
  deriving DecidableEq

def Token.identifier (value : JsString) : Token := ⟨.identifier, value, false⟩

def Token.number (value : JsString) : Token := ⟨.number, value, false⟩

def Token.string (value : JsString) (escaped : Bool) : Token := ⟨.string, value, escaped⟩

/-- The token of every regular expression. -/
def Token.regex : Token := ⟨.regex, js "/", false⟩

def Token.punctuator (value : JsString) : Token := ⟨.punctuator, value, false⟩

def REGEX_PREFIX_IDENTIFIERS : List JsString :=
  ["await", "case", "delete", "do", "else", "in", "instanceof", "new", "of", "return", "throw",
    "typeof", "void", "yield"].map js

def ALLOWED_NODE_BUILTINS : List JsString :=
  ["node:crypto", "node:fs", "node:path", "node:util"].map js

def FORBIDDEN_CODE_LOADING_IDENTIFIERS : List JsString :=
  ["Function", "_compile", "_load", "createRequire", "dlopen", "eval", "getBuiltinModule",
    "register", "registerHooks", "require"].map js

def FORBIDDEN_GLOBAL_IDENTIFIERS : List JsString := ["Reflect", "global", "globalThis"].map js

/-- `canStartRegex(tokens)`. -/
def canStartRegex (tokens : List Token) : Bool :=
  match tokens.getLast? with
  | none => true
  | some previous =>
    match previous.type with
    | .identifier => REGEX_PREFIX_IDENTIFIERS.contains previous.value
    | .number | .regex | .string => false
    | .punctuator => !([")", "]", "\x7d", "++", "--"].map js).contains previous.value

/-! ## Character classes -/

/-- `/[A-Za-z]/u`. -/
def isLetterUnit (u : UInt16) : Bool :=
  (0x41 ≤ u.toNat && u.toNat ≤ 0x5A) || (0x61 ≤ u.toNat && u.toNat ≤ 0x7A)

/-- `/[0-9]/u`. -/
def isDigitUnit (u : UInt16) : Bool := 0x30 ≤ u.toNat && u.toNat ≤ 0x39

/-- `/[A-Za-z_$]/u`. -/
def isIdentifierStart (u : UInt16) : Bool := isLetterUnit u || u = 0x5F || u = 0x24

/-- `/[A-Za-z0-9_$]/u`. -/
def isIdentifierPart (u : UInt16) : Bool := isIdentifierStart u || isDigitUnit u

/-- `/[A-Za-z0-9_.]/u`. -/
def isNumberPart (u : UInt16) : Bool := isLetterUnit u || isDigitUnit u || u = 0x5F || u = 0x2E

/-- `['++', '--', '?.'].includes(pair)`. -/
def isPair (pair : JsString) : Bool := (["++", "--", "?."].map js).contains pair

/-! ## Scanners -/

/-- `scanQuoted(index, quote)` behind the opening quote: the value, whether a backslash was
    passed, and what follows the closing quote. -/
def scanQuoted (quote : UInt16) : JsString → Option (JsString × Bool × JsString)
  | [] => none
  | u :: s =>
    if u = quote then some ([], false, s)
    else if u = 0x5C then
      match s with
      | [] => none
      | _ :: s => (scanQuoted quote s).map fun r => (r.1, true, r.2.2)
    else if isLineTerminator u then none
    else (scanQuoted quote s).map fun r => (u :: r.1, r.2.1, r.2.2)

/-- `scanRegularExpression(index)` behind the opening slash: what follows the flags. -/
def scanRegularExpression (inClass : Bool) : JsString → Option JsString
  | [] => none
  | u :: s =>
    if u = 0x5C then
      match s with
      | [] => none
      | _ :: s => scanRegularExpression inClass s
    else if u = 0x5B then scanRegularExpression true s
    else if u = 0x5D then scanRegularExpression false s
    else if u = 0x2F && !inClass then some (s.dropWhile isLetterUnit)
    else if isLineTerminator u then none
    else scanRegularExpression inClass s

/-- What follows the first `*/`. -/
def afterBlockComment : JsString → Option JsString
  | [] => none
  | u :: s => if u = 0x2A && s.head? = some 0x2F then some s.tail else afterBlockComment s

/-- The messages of `malformed`. -/
inductive Malformed where
  | blockComment
  | stringLiteral
  | escapedIdentifier
  | regularExpression
  | templateLiteral
  | templateExpression
  | closingBrace

def Malformed.text : Malformed → JsString
  | .blockComment => js "Executable artifact contains an unterminated block comment"
  | .stringLiteral => js "Executable artifact contains an unterminated string literal"
  | .escapedIdentifier => js "Unicode-escaped identifiers are forbidden in strict verifier source"
  | .regularExpression => js "Executable artifact contains an unterminated regular expression"
  | .templateLiteral => js "Executable artifact contains an unterminated template literal"
  | .templateExpression => js "Executable artifact contains an unterminated template expression"
  | .closingBrace => js "Executable artifact contains an unmatched closing brace"

section Scan

variable (relativePath : JsString)

/-- `malformed(message)`. -/
def malformed {α : Type} (message : Malformed) : Except DigestError α :=
  invalid message.text [(js "path", some (.string relativePath))]

/-- What `scanCode` finds at a unit. -/
inductive Read where
  /-- The tokens it pushes, and the rest of the source. -/
  | next (pushed : List Token) (rest : JsString)
  | template (rest : JsString)
  | openBrace (rest : JsString)
  | closeBrace (rest : JsString)

/-- The tests of the loop of `scanCode`, in their order; `tokens` are those pushed so far. -/
def readUnit (tokens : List Token) (u : UInt16) (s : JsString) : Except DigestError Read :=
  if isSpaceUnit u then .ok (.next [] s)
  else if u = 0x2F && s.head? = some 0x2F then
    .ok (.next [] (s.tail.dropWhile fun v => !isLineTerminator v))
  else if u = 0x2F && s.head? = some 0x2A then
    match afterBlockComment s.tail with
    | some rest => .ok (.next [] rest)
    | none => malformed relativePath .blockComment
  else if u = 0x27 || u = 0x22 then
    match scanQuoted u s with
    | some (value, escaped, rest) => .ok (.next [.string value escaped] rest)
    | none => malformed relativePath .stringLiteral
  else if u = 0x60 then .ok (.template s)
  else if u = 0x5C then
    malformed relativePath .escapedIdentifier
  else if isIdentifierStart u then
    .ok (.next [.identifier (u :: s.takeWhile isIdentifierPart)] (s.dropWhile isIdentifierPart))
  else if isDigitUnit u then
    .ok (.next [.number (u :: s.takeWhile isNumberPart)] (s.dropWhile isNumberPart))
  else if u = 0x2F && canStartRegex tokens then
    match scanRegularExpression false s with
    | some rest => .ok (.next [.regex] rest)
    | none => malformed relativePath .regularExpression
  else if u = 0x7B then .ok (.openBrace s)
  else if u = 0x7D then .ok (.closeBrace s)
  else if isPair (u :: s.take 1) then .ok (.next [.punctuator (u :: s.take 1)] s.tail)
  else .ok (.next [.punctuator [u]] s)

mutual

/-- The loop of `scanTemplate`: the tokens, and what follows the closing backtick. -/
def scanTemplate : ℕ → List Token → JsString → Except DigestError (List Token × JsString)
  | 0, _, _ => .error .rangeError
  | _ + 1, _, [] =>
    malformed relativePath .templateLiteral
  | fuel + 1, tokens, u :: s =>
    if u = 0x5C then scanTemplate fuel tokens s.tail
    else if u = 0x60 then .ok (tokens, s)
    else if u = 0x24 && s.head? = some 0x7B then do
      let (tokens, rest) ← scanCode fuel true 0 (tokens ++ [.punctuator (js "$\x7b")]) s.tail
      scanTemplate fuel tokens rest
    else scanTemplate fuel tokens s

/-- The loop of `scanCode`, at the brace depth `depth`; `stop` is `stopAtTemplateBrace`. -/
def scanCode : ℕ → Bool → ℕ → List Token → JsString →
    Except DigestError (List Token × JsString)
  | 0, _, _, _, _ => .error .rangeError
  | _ + 1, stop, _, tokens, [] =>
    if stop then
      malformed relativePath .templateExpression
    else .ok (tokens, [])
  | fuel + 1, stop, depth, tokens, u :: s => do
    match ← readUnit relativePath tokens u s with
    | .next pushed rest => scanCode fuel stop depth (tokens ++ pushed) rest
    | .template rest => do
      let (tokens, rest) ← scanTemplate fuel tokens rest
      scanCode fuel stop depth tokens rest
    | .openBrace rest =>
      scanCode fuel stop (depth + 1) (tokens ++ [.punctuator (js "\x7b")]) rest
    | .closeBrace rest =>
      match depth with
      | 0 =>
        if stop then .ok (tokens, rest)
        else malformed relativePath .closingBrace
      | depth + 1 => scanCode fuel stop depth (tokens ++ [.punctuator (js "\x7d")]) rest

end

/-- `tokenizeModuleSource(source, relativePath)`. -/
def tokenizeModuleSource (source : JsString) : Except DigestError (List Token) :=
  (scanCode relativePath (source.length + 1) false 0 [] source).map Prod.fst

end Scan

/-! ## The fuel -/

/-- What is left of the source. -/
def Read.rest : Read → JsString
  | .next _ rest | .template rest | .openBrace rest | .closeBrace rest => rest

theorem length_tail_le {s : JsString} : s.tail.length ≤ s.length := by
  rw [List.length_tail]
  omega

theorem length_dropWhile_le {s : JsString} {p : UInt16 → Bool} :
    (s.dropWhile p).length ≤ s.length :=
  (List.dropWhile_suffix p).length_le

theorem scanQuoted_length {quote : UInt16} {s : JsString} {r : JsString × Bool × JsString}
    (h : scanQuoted quote s = some r) : r.2.2.length ≤ s.length := by
  fun_induction scanQuoted quote s generalizing r with
  | case1 => cases h
  | case2 =>
    obtain rfl := Option.some.inj h
    exact Nat.le_succ _
  | case3 => cases h
  | case4 _ _ _ ih | case6 _ _ _ _ _ ih =>
    obtain ⟨r', hr', rfl⟩ := Option.map_eq_some_iff.mp h
    have := ih hr'
    simp only [List.length_cons]
    omega
  | case5 => cases h

theorem scanRegularExpression_length {inClass : Bool} {s r : JsString}
    (h : scanRegularExpression inClass s = some r) : r.length ≤ s.length := by
  fun_induction scanRegularExpression inClass s with
  | case1 | case2 | case7 => cases h
  | case3 _ _ _ ih | case4 _ _ _ ih | case5 _ _ _ _ ih | case8 _ _ _ _ _ _ _ _ ih =>
    have := ih h
    simp only [List.length_cons]
    omega
  | case6 _ _ s =>
    obtain rfl := Option.some.inj h
    have := @length_dropWhile_le s isLetterUnit
    simp only [List.length_cons]
    omega

theorem afterBlockComment_length {s r : JsString} (h : afterBlockComment s = some r) :
    r.length ≤ s.length := by
  fun_induction afterBlockComment s with
  | case1 => cases h
  | case2 =>
    obtain rfl := Option.some.inj h
    exact length_tail_le.trans (Nat.le_succ _)
  | case3 _ _ _ ih => exact (ih h).trans (Nat.le_succ _)

theorem readUnit_length {path : JsString} {tokens : List Token} {u : UInt16} {s : JsString}
    {r : Read} (h : readUnit path tokens u s = .ok r) : r.rest.length ≤ s.length := by
  revert h
  fun_cases readUnit path tokens u s
  all_goals rintro ⟨⟩
  all_goals try exact le_rfl
  · exact length_dropWhile_le.trans length_tail_le
  · exact (afterBlockComment_length ‹_›).trans length_tail_le
  · exact scanQuoted_length ‹_›
  · exact length_dropWhile_le
  · exact length_dropWhile_le
  · exact scanRegularExpression_length ‹_›
  · exact length_tail_le

theorem readUnit_ne_rangeError {path : JsString} {tokens : List Token} {u : UInt16}
    {s : JsString} : readUnit path tokens u s ≠ .error .rangeError := by
  fun_cases readUnit path tokens u s
  all_goals rintro ⟨⟩

/-- A scan that did not run out of fuel, and left at most `n` units. -/
def Ends (x : Except DigestError (List Token × JsString)) (n : ℕ) : Prop :=
  x ≠ .error .rangeError ∧ ∀ r, x = .ok r → r.2.length ≤ n

theorem ends_ok {tokens : List Token} {rest : JsString} {n : ℕ} (h : rest.length ≤ n) :
    Ends (.ok (tokens, rest)) n := by
  refine ⟨fun h => (by cases h), fun r hr => ?_⟩
  obtain rfl := Except.ok.inj hr
  exact h

theorem ends_malformed {path : JsString} {message : Malformed} {n : ℕ} :
    Ends (malformed path message) n :=
  ⟨nofun, nofun⟩

theorem Ends.mono {x : Except DigestError (List Token × JsString)} {m n : ℕ} (h : Ends x m)
    (hmn : m ≤ n) : Ends x n :=
  ⟨h.1, fun r hr => (h.2 r hr).trans hmn⟩

theorem Ends.bind {x : Except DigestError (List Token × JsString)} {m n : ℕ}
    {k : List Token × JsString → Except DigestError (List Token × JsString)} (h : Ends x m)
    (hk : ∀ r : List Token × JsString, r.2.length ≤ m → Ends (k r) n) : Ends (x >>= k) n := by
  cases x with
  | ok r => exact hk r (h.2 r rfl)
  | error e =>
    refine ⟨fun he => h.1 ?_, nofun⟩
    cases he
    rfl

theorem scan_ends (path : JsString) (fuel : ℕ) :
    (∀ tokens s, s.length < fuel → Ends (scanTemplate path fuel tokens s) s.length) ∧
      ∀ stop depth tokens s, s.length < fuel →
        Ends (scanCode path fuel stop depth tokens s) s.length := by
  induction fuel with
  | zero => exact ⟨nofun, nofun⟩
  | succ fuel ih =>
    obtain ⟨htemplate, hcode⟩ := ih
    constructor
    · intro tokens s hs
      cases s with
      | nil => exact ends_malformed
      | cons u s =>
        have hs : s.length < fuel := Nat.lt_of_succ_lt_succ hs
        have htail := @length_tail_le s
        rw [scanTemplate]
        split
        · exact (htemplate _ _ (by omega)).mono (htail.trans (Nat.le_succ _))
        split
        · exact ends_ok (Nat.le_succ _)
        split
        · refine (hcode _ _ _ _ (by omega)).bind fun r hr => ?_
          exact (htemplate _ _ (by omega)).mono (hr.trans (htail.trans (Nat.le_succ _)))
        · exact (htemplate _ _ hs).mono (Nat.le_succ _)
    · intro stop depth tokens s hs
      cases s with
      | nil =>
        rw [scanCode]
        split
        · exact ends_malformed
        · exact ends_ok le_rfl
      | cons u s =>
        have hs : s.length < fuel := Nat.lt_of_succ_lt_succ hs
        rw [scanCode]
        cases hread : readUnit path tokens u s with
        | error e =>
          refine ⟨fun he => readUnit_ne_rangeError (hread.trans ?_), nofun⟩
          cases he
          rfl
        | ok r =>
          have hrest := readUnit_length hread
          have hle : s.length ≤ (u :: s).length := Nat.le_succ _
          cases r with
          | next pushed rest => exact (hcode _ _ _ _ (hrest.trans_lt hs)).mono (hrest.trans hle)
          | template rest =>
            refine (htemplate _ _ (hrest.trans_lt hs)).bind fun r hr => ?_
            exact (hcode _ _ _ _ ((hr.trans hrest).trans_lt hs)).mono ((hr.trans hrest).trans hle)
          | openBrace rest => exact (hcode _ _ _ _ (hrest.trans_lt hs)).mono (hrest.trans hle)
          | closeBrace rest =>
            cases depth with
            | zero =>
              show Ends (if stop then _ else _) _
              split
              · exact ends_ok (hrest.trans hle)
              · exact ends_malformed
            | succ depth => exact (hcode _ _ _ _ (hrest.trans_lt hs)).mono (hrest.trans hle)

/-- The segments that `path.posix.normalize` keeps; `kept` are those so far, the last first. -/
def keptSegments (allowAboveRoot : Bool) : List JsString → List JsString → List JsString
  | kept, [] => kept.reverse
  | kept, segment :: rest =>
    if segment = [] || segment = js "." then keptSegments allowAboveRoot kept rest
    else if segment = js ".." then
      match kept with
      | last :: kept' =>
        if last = js ".." then keptSegments allowAboveRoot (segment :: kept) rest
        else keptSegments allowAboveRoot kept' rest
      | [] => keptSegments allowAboveRoot (if allowAboveRoot then [segment] else []) rest
    else keptSegments allowAboveRoot (segment :: kept) rest

/-- `path.posix.normalize(value)`. -/
def posixNormalize (value : JsString) : JsString :=
  if value = [] then js "."
  else
    let isAbsolute := value.head? = some 0x2F
    let trailing := value.getLast? = some 0x2F
    let normalized := [0x2F].intercalate (keptSegments (!isAbsolute) [] (segments value))
    if normalized = [] then
      if isAbsolute then js "/" else if trailing then js "./" else js "."
    else
      (if isAbsolute then js "/" else []) ++ normalized ++ (if trailing then js "/" else [])

/-- `path.posix.join(left, right)`. -/
def posixJoin (left right : JsString) : JsString :=
  posixNormalize ([0x2F].intercalate ([left, right].filter fun part => part ≠ []))

/-- `path.posix.dirname(value)`. -/
def posixDirname : JsString → JsString
  | [] => js "."
  | u :: s =>
    -- the search for the last separator starts behind the trailing ones and ends before `u`
    match (s.reverse.dropWhile (· = 0x2F)).dropWhile (· ≠ 0x2F) with
    | [] => if u = 0x2F then js "/" else js "."
    | _ :: front => if u = 0x2F && front = [] then js "//" else u :: front.reverse

/-- `path.posix.normalize(path.posix.join(path.posix.dirname(relativePath), specifier))`. -/
def resolveSpecifier (relativePath specifier : JsString) : JsString :=
  posixNormalize (posixJoin (posixDirname relativePath) specifier)

/-! ## Dependencies -/

section Dependencies

variable (relativePath : JsString)

/-- `invalid(message, { path: relativePath })`. -/
def refuse {α : Type} (message : JsString) : Except DigestError α :=
  invalid message [(js "path", some (.string relativePath))]

/-- The loop over a bracketed part: the depth and the tokens where it ends, and whether it
    passed a string. -/
def scanBrackets : ℕ → Bool → List Token → ℕ × Bool × List Token
  | 0, containsString, tokens => (0, containsString, tokens)
  | depth + 1, containsString, [] => (depth + 1, containsString, [])
  | depth + 1, containsString, token :: tokens =>
    if token.type = .punctuator && token.value = js "[" then
      scanBrackets (depth + 2) containsString tokens
    else if token.type = .punctuator && token.value = js "]" then
      scanBrackets depth containsString tokens
    else scanBrackets (depth + 1) (containsString || token.type = .string) tokens

/-- `computedMember`, for an opening bracket behind `previous`. -/
def isComputedMember (previous : Option Token) : Bool :=
  previous.any fun p =>
    (p.type = .identifier && !REGEX_PREFIX_IDENTIFIERS.contains p.value) ||
      (p.type = .number || p.type = .regex || p.type = .string) ||
      ([")", "]", "\x7d"].map js).contains p.value

/-- The check at an opening bracket; `rest` are the tokens behind it. -/
def checkBracket (previous : Option Token) (token : Token) (rest : List Token) :
    Except DigestError Unit :=
  if token.type = .punctuator && token.value = js "[" then
    let (depth, containsString, after) := scanBrackets 1 false rest
    if depth ≠ 0 then
      refuse relativePath (js "Computed member access is unterminated in strict verifier source")
    else if containsString && (isComputedMember previous ||
        after.head?.any fun t => t.type = .punctuator && t.value = js ":") then
      refuse relativePath (js "String-computed member access is forbidden in strict verifier source: " ++ relativePath)
    else .ok ()
  else .ok ()

/-- `constructorReference`. -/
def isConstructorReference (previous : Option Token) (token : Token) (rest : List Token) : Bool :=
  token.type = .identifier && token.value = js "constructor" &&
    !((previous.any fun p => p.value = js "\x7b") && rest.head?.any fun t => t.value = js "(")

/-- The check against identifiers that load code. -/
def checkIdentifier (previous : Option Token) (token : Token) (rest : List Token) :
    Except DigestError Unit :=
  if (token.type = .identifier && (FORBIDDEN_CODE_LOADING_IDENTIFIERS.contains token.value ||
      FORBIDDEN_GLOBAL_IDENTIFIERS.contains token.value)) ||
      isConstructorReference previous token rest then
    invalid
      (js "Dynamic code-loading surfaces are forbidden in the strict verifier artifact closure")
      [(js "path", some (.string relativePath)), (js "identifier", some (.string token.value))]
  else .ok ()

/-- The search for `from` with a string behind it, up to a token that reads `;`. -/
def fromSpecifier : List Token → Option Token
  | [] => none
  | token :: rest =>
    if token.value = js ";" then none
    else if token.type = .identifier && token.value = js "from" &&
        rest.head?.any fun t => t.type = .string then rest.head?
    else fromSpecifier rest

/-- `token.type === 'identifier' && ['import', 'export'].includes(token.value)`. -/
def isDeclarationKeyword (token : Token) : Bool :=
  token.type = .identifier && (token.value = js "import" || token.value = js "export")

/-- The specifier that the search finds for a token: `none` where it skips the token. -/
def specifierAt (previous : Option Token) (token : Token) (rest : List Token) :
    Except DigestError (Option Token) :=
  if !isDeclarationKeyword token then .ok none
  else if previous.any fun p => p.value = js "." || p.value = js "?." then .ok none
  else if token.value = js "import" && rest.head?.any fun t => t.value = js "." then .ok none
  else if token.value = js "import" && rest.head?.any fun t => t.value = js "(" then
    refuse relativePath (js "Dynamic imports are forbidden in the strict verifier artifact closure")
  else if token.value = js "import" && rest.head?.any fun t => t.type = .string then
    .ok rest.head?
  else .ok (fromSpecifier rest)

/-- What becomes of a specifier: the path of a local file, `none` for a builtin. -/
def resolveDependency (N : Normalization) (specifier : Token) :
    Except DigestError (Option JsString) :=
  if specifier.escaped then
    refuse relativePath (js "Escaped module specifiers are forbidden in the strict verifier artifact closure")
  else if !(js ".").isPrefixOf specifier.value then
    if !ALLOWED_NODE_BUILTINS.contains specifier.value then
      invalid
        (js "Only pinned relative modules and the minimal Node builtin allow-set may be imported")
        [(js "path", some (.string relativePath)),
          (js "specifier", some (.string specifier.value))]
    else .ok none
  else
    (validateArtifactPath N (some (.string (resolveSpecifier relativePath specifier.value)))).map
      some

/-- The body of the loop over the tokens: the dependency that it adds. -/
def dependencyAt (N : Normalization) (previous : Option Token) (token : Token)
    (rest : List Token) : Except DigestError (Option JsString) := do
  checkBracket relativePath previous token rest
  checkIdentifier relativePath previous token rest
  match ← specifierAt relativePath previous token rest with
  | none => .ok none
  | some specifier => resolveDependency relativePath N specifier

/-- `dependencies.add(dependency)`. -/
def addDependency (dependencies : List JsString) : Option JsString → List JsString
  | none => dependencies
  | some dependency =>
    if dependency ∈ dependencies then dependencies else dependencies ++ [dependency]

/-- The loop over the tokens. -/
def dependencyLoop (N : Normalization) :
    Option Token → List JsString → List Token → Except DigestError (List JsString)
  | _, dependencies, [] => .ok dependencies
  | previous, dependencies, token :: rest => do
    let dependency ← dependencyAt relativePath N previous token rest
    dependencyLoop N (some token) (addDependency dependencies dependency) rest

/-- `new TextDecoder('utf-8', { fatal: true }).decode(bytes)`. -/
def decodeSource (bytes : List UInt8) : Option JsString :=
  Utf8.decodeFatal (if bytes.take 3 = [0xEF, 0xBB, 0xBF] then bytes.drop 3 else bytes)

/-- Whether a file is read as a module. -/
def isModulePath : Bool := (js ".mjs").isSuffixOf relativePath || (js ".js").isSuffixOf relativePath

/-- `staticLocalDependencies(relativePath, bytes)`. -/
def staticLocalDependencies (N : Normalization) (bytes : List UInt8) :
    Except DigestError (List JsString) :=
  if !isModulePath relativePath then .ok []
  else
    match decodeSource bytes with
    | none => refuse relativePath (js "Executable artifact source is not UTF-8")
    | some source => do
      let tokens ← tokenizeModuleSource relativePath source
      dependencyLoop relativePath N none [] tokens

end Dependencies

/-! ## What the search finds -/

theorem mem_addDependency {dependencies : List JsString} {added : Option JsString}
    {dependency : JsString} :
    dependency ∈ addDependency dependencies added ↔
      dependency ∈ dependencies ∨ added = some dependency := by
  cases added with
  | none => simp [addDependency]
  | some d =>
    rw [addDependency]
    split
    · rename_i hd
      rw [Option.some.injEq, or_iff_left_of_imp]
      rintro rfl
      exact hd
    · rw [List.mem_append, List.mem_singleton, Option.some.injEq, eq_comm]

theorem dependencyAt_eq_ok {path : JsString} {N : Normalization} {previous : Option Token}
    {token : Token} {rest : List Token} {added : Option JsString}
    (h : dependencyAt path N previous token rest = .ok added) :
    ∃ found, specifierAt path previous token rest = .ok found ∧
      match found with
      | none => added = none
      | some specifier => resolveDependency path N specifier = .ok added := by
  simp only [dependencyAt, bind_eq_ok] at h
  obtain ⟨-, -, -, -, found, hfound, h⟩ := h
  refine ⟨found, hfound, ?_⟩
  cases found with
  | none => exact (Except.ok.inj h).symm
  | some specifier => exact h

/-- The loop returns what it had, and what it finds; and every token passes its body. -/
theorem dependencyLoop_eq_ok {path : JsString} {N : Normalization} {before tokens : List Token}
    {dependencies result : List JsString}
    (h : dependencyLoop path N before.getLast? dependencies tokens = .ok result) :
    (∀ mid token rest, tokens = mid ++ token :: rest →
      ∃ added, dependencyAt path N (before ++ mid).getLast? token rest = .ok added) ∧
    ∀ dependency, dependency ∈ result ↔ dependency ∈ dependencies ∨
      ∃ mid token rest, tokens = mid ++ token :: rest ∧
        dependencyAt path N (before ++ mid).getLast? token rest = .ok (some dependency) := by
  induction tokens generalizing before dependencies with
  | nil =>
    obtain rfl := Except.ok.inj h
    constructor
    · intro mid token rest hsplit
      simp at hsplit
    · simp
  | cons token tokens ih =>
    obtain ⟨added, hadded, h⟩ := bind_eq_ok.mp h
    have hlast : some token = (before ++ [token]).getLast? := by simp
    rw [hlast] at h
    obtain ⟨hpass, hmem⟩ := ih h
    have hhere : dependencyAt path N (before ++ []).getLast? token tokens = .ok added := by
      rwa [List.append_nil]
    constructor
    · intro mid t rest hsplit
      rcases mid with _ | ⟨m, mid⟩
      · obtain ⟨rfl, rfl⟩ := List.cons.inj hsplit
        exact ⟨added, hhere⟩
      · obtain ⟨rfl, htokens⟩ := List.cons.inj hsplit
        simpa using hpass mid t rest htokens
    · intro dependency
      rw [hmem, mem_addDependency, or_assoc]
      refine or_congr_right ⟨?_, ?_⟩
      · rintro (rfl | ⟨mid, t, rest, rfl, hdep⟩)
        · exact ⟨[], token, tokens, rfl, hhere⟩
        · exact ⟨token :: mid, t, rest, rfl, by simpa using hdep⟩
      · rintro ⟨mid, t, rest, hsplit, hdep⟩
        rcases mid with _ | ⟨m, mid⟩
        · obtain ⟨rfl, rfl⟩ := List.cons.inj hsplit
          exact .inl (Except.ok.inj (hhere.symm.trans hdep))
        · obtain ⟨rfl, htokens⟩ := List.cons.inj hsplit
          exact .inr ⟨mid, t, rest, htokens, by simpa using hdep⟩

/-- What is returned for a module: every token passes the body of the loop, and the list holds
    what the body adds. -/
theorem staticLocalDependencies_eq_ok {path : JsString} {N : Normalization} {bytes : List UInt8}
    {result : List JsString} (hpath : isModulePath path = true)
    (h : staticLocalDependencies path N bytes = .ok result) :
    ∃ source tokens, decodeSource bytes = some source ∧
      tokenizeModuleSource path source = .ok tokens ∧
      (∀ before token rest, tokens = before ++ token :: rest →
        ∃ added, dependencyAt path N before.getLast? token rest = .ok added) ∧
      ∀ dependency, dependency ∈ result ↔ ∃ before token rest, tokens = before ++ token :: rest ∧
        dependencyAt path N before.getLast? token rest = .ok (some dependency) := by
  rw [staticLocalDependencies, hpath] at h
  split at h
  · rename_i hnot
    simp at hnot
  · split at h
    · cases h
    · rename_i source hsource
      obtain ⟨tokens, htokens, hloop⟩ := bind_eq_ok.mp h
      obtain ⟨hpass, hmem⟩ := @dependencyLoop_eq_ok path N [] tokens [] result hloop
      refine ⟨source, tokens, hsource, htokens, hpass, fun dependency => ?_⟩
      simpa using hmem dependency

end OpenRisk.Strict
