import OpenRisk.Strict.ArtifactIdentity
import OpenRisk.Strict.ModuleLexemes
import OpenRisk.Sdk.Content

/-!
# Completeness of the static import closure

The `import` and `export … from` declarations of a module, with white space and comments
between any two of their lexemes, and what the search of `staticLocalDependencies` finds of
them. The search stops at any token that reads `;` and leaves out a token behind one that reads
`.`, whatever the types of these tokens are.

Results:
* `specifierAt_eq_ok`: the search finds the specifier of a declaration exactly when the
  declaration is visible to it.
* `importClosure_complete`: where slashes are read right, the specifiers of the visible
  declarations are builtins, or in the returned list; in an accepted manifest, they are entries.
-/

namespace OpenRisk.Strict

open Text Sdk PomRx

/-! ## Declarations -/

/-- A string literal of a declaration. -/
structure Literal where
  quote : UInt16
  body : JsString

def Literal.lexeme (l : Literal) : Lexeme := .string l.quote l.body

def Literal.token (l : Literal) : Token := .string (unescaped l.body) (l.body.contains 0x5C)

/-- A part of a name. -/
inductive NamePart where
  | word (value : JsString)
  | number (value : JsString)
  | other (u : UInt16) (h : 0x80 ≤ u.toNat)
  | escape (rest : JsString)

def NamePart.lexeme : NamePart → Lexeme
  | .word value => .word value
  | .number value => .number value
  | .other u _ => .punctuator u
  | .escape rest => .escape rest

structure Name where
  head : NamePart
  tail : List NamePart

def Name.lexemes (n : Name) : List Lexeme := (n.head :: n.tail).map NamePart.lexeme

inductive ModuleExportName where
  | name (name : Name)
  | literal (literal : Literal)

def ModuleExportName.lexemes : ModuleExportName → List Lexeme
  | .name n => n.lexemes
  | .literal l => [l.lexeme]

/-- An import specifier or an export specifier, with what follows its `as`. -/
structure Specifier where
  name : ModuleExportName
  renamed : Option ModuleExportName

def Specifier.lexemes (s : Specifier) : List Lexeme :=
  match s.renamed with
  | none => s.name.lexemes
  | some renamed => s.name.lexemes ++ .word (js "as") :: renamed.lexemes

/-- Specifiers with commas between them. -/
def specifierLexemes : List Specifier → List Lexeme
  | [] => []
  | [s] => s.lexemes
  | s :: t :: ss => s.lexemes ++ Lexeme.punctuator 0x2C :: specifierLexemes (t :: ss)

/-- `NamedImports` or `NamedExports`. -/
structure NamedBindings where
  specifiers : List Specifier
  /-- Whether a comma stands behind the last specifier. -/
  trailing : Bool

def NamedBindings.lexemes (b : NamedBindings) : List Lexeme :=
  Lexeme.punctuator 0x7B :: specifierLexemes b.specifiers ++
    (if b.trailing then [Lexeme.punctuator 0x2C, Lexeme.punctuator 0x7D]
      else [Lexeme.punctuator 0x7D])

/-- `* as name`. -/
def namespaceLexemes (n : ModuleExportName) : List Lexeme :=
  .punctuator 0x2A :: .word (js "as") :: n.lexemes

inductive ImportClause where
  | defaultBinding (binding : Name)
  | nameSpace (binding : Name)
  | named (bindings : NamedBindings)
  | defaultNameSpace (first binding : Name)
  | defaultNamed (first : Name) (bindings : NamedBindings)

def ImportClause.lexemes : ImportClause → List Lexeme
  | .defaultBinding n => n.lexemes
  | .nameSpace n => namespaceLexemes (.name n)
  | .named b => b.lexemes
  | .defaultNameSpace d n => d.lexemes ++ .punctuator 0x2C :: namespaceLexemes (.name n)
  | .defaultNamed d b => d.lexemes ++ .punctuator 0x2C :: b.lexemes

inductive ExportFromClause where
  | all
  | nameSpace (name : ModuleExportName)
  | named (bindings : NamedBindings)

def ExportFromClause.lexemes : ExportFromClause → List Lexeme
  | .all => [.punctuator 0x2A]
  | .nameSpace n => namespaceLexemes n
  | .named b => b.lexemes

inductive Declaration where
  /-- `import specifier`. -/
  | bare (specifier : Literal)
  | importFrom (clause : ImportClause) (specifier : Literal)
  | exportFrom (clause : ExportFromClause) (specifier : Literal)

def Declaration.specifier : Declaration → Literal
  | .bare specifier | .importFrom _ specifier | .exportFrom _ specifier => specifier

def Declaration.keyword : Declaration → JsString
  | .bare _ | .importFrom _ _ => js "import"
  | .exportFrom _ _ => js "export"

/-- The lexemes between the keyword and `from`. -/
def Declaration.clause : Declaration → List Lexeme
  | .bare _ => []
  | .importFrom clause _ => clause.lexemes
  | .exportFrom clause _ => clause.lexemes

def Declaration.lexemes (d : Declaration) : List Lexeme :=
  .word d.keyword :: match d with
    | .bare specifier => [specifier.lexeme]
    | .importFrom _ specifier | .exportFrom _ specifier =>
      d.clause ++ [.word (js "from"), specifier.lexeme]

/-- Not white space, nor a comment. -/
def Lexeme.isSignificant : Lexeme → Bool
  | .space _ | .lineComment _ | .blockComment _ => false
  | _ => true

/-- The declaration stands in the source, behind the lexemes `pre`. -/
def Occurs (ls pre : List Lexeme) (d : Declaration) : Prop :=
  ∃ mid post, ls = pre ++ mid ++ post ∧ mid.filter Lexeme.isSignificant = d.lexemes

/-! ## What is visible -/

/-- What the search asks of a declaration behind the tokens `before`: no token that it takes
    for a member access, and no string in the clause that it takes for the end of a statement. -/
structure Visible (before : List Token) (d : Declaration) : Prop where
  previous : ∀ t ∈ before.getLast?, t.value ≠ js "." ∧ t.value ≠ js "?."
  bare : ∀ specifier, d = .bare specifier → unescaped specifier.body ≠ js "."
  clause : ∀ quote body, Lexeme.string quote body ∈ d.clause → unescaped body ≠ js ";"

/-- The specifier is a listed builtin, or a path in the list; it has no escapes. -/
def Covered (path : JsString) (dependencies : List JsString) (d : Declaration) : Prop :=
  0x5C ∉ d.specifier.body ∧ (d.specifier.body ∈ ALLOWED_NODE_BUILTINS ∨
    resolveSpecifier path d.specifier.body ∈ dependencies)

/-! ## Tokens of lexemes -/

theorem codeTokens_append (l m : List Lexeme) : codeTokens (l ++ m) = codeTokens l ++ codeTokens m := by
  induction l with
  | nil => rfl
  | cons x l ih => rw [List.cons_append, codeTokens, codeTokens, ih, List.append_assoc]

/-- White space and comments have no tokens. -/
theorem codeTokens_filter (ls : List Lexeme) :
    codeTokens (ls.filter Lexeme.isSignificant) = codeTokens ls := by
  induction ls with
  | nil => rfl
  | cons l ls ih =>
    rw [List.filter_cons]
    split
    · rw [codeTokens, codeTokens, ih]
    · rename_i h
      have hl : l.tokens = [] := by
        cases l with
        | space | lineComment | blockComment => rfl
        | _ => exact absurd rfl h
      rw [codeTokens, hl, ih, List.nil_append]

/-- A lexeme of a source is well formed before what follows it. -/
theorem wellFormed_of_mem {after : JsString} {ls : List Lexeme} (h : codeWellFormed after ls)
    {l : Lexeme} (hl : l ∈ ls) : ∃ text, l.WellFormed text := by
  induction ls with
  | nil => cases hl
  | cons x ls ih =>
    rcases List.mem_cons.mp hl with rfl | hl
    · exact ⟨_, h.1⟩
    · exact ih h.2 hl

/-! ## No string behind `from` -/

/-- The tokens may be neighbours in a clause. -/
def Adjacent (t u : Token) : Prop := t.value = js "from" → u.type ≠ .string

/-- No token but the last one of a clause ends the search for its specifier. -/
abbrev Clause (tokens : List Token) : Prop := tokens.IsChain Adjacent

theorem clause_join {a b : List Token} {q : Token} (ha : Clause a) (hq : q.type ≠ .string)
    (hb : Clause (q :: b)) : Clause (a ++ q :: b) := by
  refine List.isChain_append.mpr ⟨ha, hb, fun t _ u hu _ => ?_⟩
  obtain rfl : q = u := by simpa using hu
  exact hq

theorem clause_cons {t q : Token} {b : List Token} (hq : q.type ≠ .string)
    (hb : Clause (q :: b)) : Clause (t :: q :: b) :=
  clause_join (.singleton t) hq hb

theorem clause_name (p : Token) (n : Name) : Clause (p :: codeTokens n.lexemes) := by
  have hparts : ∀ parts : List NamePart,
      ∀ p : Token, Clause (p :: codeTokens (parts.map NamePart.lexeme)) := by
    intro parts
    induction parts with
    | nil => exact .singleton
    | cons part parts ih =>
      intro p
      cases part with
      | escape => exact ih p
      | word value => exact clause_cons (by simp [Token.identifier]) (ih _)
      | number value => exact clause_cons (by simp [Token.number]) (ih _)
      | other u h => exact clause_cons (by simp [Token.punctuator]) (ih _)
  exact hparts _ p

theorem clause_exportName {p : Token} (hp : p.value ≠ js "from") (n : ModuleExportName) :
    Clause (p :: codeTokens n.lexemes) := by
  cases n with
  | name n => exact clause_name p n
  | literal l => exact List.isChain_cons_cons.mpr ⟨fun h => absurd h hp, .singleton _⟩

theorem clause_specifier {p : Token} (hp : p.value ≠ js "from") (s : Specifier) :
    Clause (p :: codeTokens s.lexemes) := by
  rw [Specifier.lexemes]
  cases s.renamed with
  | none => exact clause_exportName hp s.name
  | some renamed =>
    simp only [codeTokens_append, codeTokens]
    exact clause_join (clause_exportName hp s.name) (by simp [Token.identifier])
      (clause_exportName (by decide) renamed)

theorem clause_specifiers {p : Token} (hp : p.value ≠ js "from") (ss : List Specifier) :
    Clause (p :: codeTokens (specifierLexemes ss)) := by
  induction ss using specifierLexemes.induct generalizing p with
  | case1 => exact .singleton p
  | case2 s => exact clause_specifier hp s
  | case3 s t ss ih =>
    simp only [specifierLexemes, codeTokens_append, codeTokens]
    exact clause_join (clause_specifier hp s) (by simp [Token.punctuator]) (ih (by decide))

theorem clause_bindings (p : Token) (b : NamedBindings) : Clause (p :: codeTokens b.lexemes) := by
  have hopen : Clause (.punctuator [0x7B] :: codeTokens (specifierLexemes b.specifiers)) :=
    clause_specifiers (by decide) b.specifiers
  have hclose : Clause [.punctuator [0x7D]] := .singleton _
  rw [NamedBindings.lexemes, List.cons_append, codeTokens, codeTokens_append]
  cases b.trailing with
  | false =>
    exact clause_cons (by simp [Token.punctuator]) (clause_join hopen (by simp [Token.punctuator]) hclose)
  | true =>
    exact clause_cons (by simp [Token.punctuator]) (clause_join hopen (by simp [Token.punctuator])
      (clause_cons (by simp [Token.punctuator]) hclose))

theorem clause_namespace (p : Token) (n : ModuleExportName) :
    Clause (p :: codeTokens (namespaceLexemes n)) :=
  clause_cons (by simp [Token.punctuator]) (clause_cons (by simp [Token.identifier])
    (clause_exportName (by decide) n))

/-- A clause does not start with a string, and has no string behind a `from`. -/
theorem clause_declaration (p : Token) (d : Declaration) : Clause (p :: codeTokens d.clause) := by
  have hcomma : (Token.punctuator [0x2C]).type ≠ .string := by simp [Token.punctuator]
  cases d with
  | bare specifier => exact .singleton p
  | importFrom clause specifier =>
    cases clause with
    | defaultBinding n => exact clause_name p n
    | nameSpace n => exact clause_namespace p (.name n)
    | named b => exact clause_bindings p b
    | defaultNameSpace d n =>
      simp only [Declaration.clause, ImportClause.lexemes, codeTokens_append, codeTokens]
      exact clause_join (clause_name p d) hcomma (clause_namespace _ (.name n))
    | defaultNamed d b =>
      simp only [Declaration.clause, ImportClause.lexemes, codeTokens_append, codeTokens]
      exact clause_join (clause_name p d) hcomma (clause_bindings _ b)
  | exportFrom clause specifier =>
    cases clause with
    | all => exact clause_cons (by simp [Token.punctuator]) (.singleton _)
    | nameSpace n => exact clause_namespace p n
    | named b => exact clause_bindings p b

/-! ## The lexemes of a clause -/

/-- The lexemes that occur in clauses. -/
def isClauseLexeme : Lexeme → Bool
  | .word _ | .number _ | .string _ _ | .escape _ => true
  | .punctuator u => u ≠ 0x3B && u ≠ 0x2E && u ≠ 0x28
  | _ => false

theorem isClauseLexeme_name (n : Name) : ∀ l ∈ n.lexemes, isClauseLexeme l = true := by
  intro l hl
  obtain ⟨part, -, rfl⟩ := List.mem_map.mp hl
  cases part with
  | other u h =>
    have hne : ∀ v : UInt16, v.toNat < 0x80 → u ≠ v := by
      rintro v hv rfl
      omega
    simp [NamePart.lexeme, isClauseLexeme, hne 0x3B (by decide), hne 0x2E (by decide),
      hne 0x28 (by decide)]
  | word | number | escape => rfl

theorem isClauseLexeme_exportName (n : ModuleExportName) : ∀ l ∈ n.lexemes, isClauseLexeme l = true := by
  cases n with
  | name n => exact isClauseLexeme_name n
  | literal l => exact List.forall_mem_singleton.mpr rfl

theorem isClauseLexeme_specifier (s : Specifier) : ∀ l ∈ s.lexemes, isClauseLexeme l = true := by
  rw [Specifier.lexemes]
  cases s.renamed with
  | none => exact isClauseLexeme_exportName s.name
  | some renamed =>
    exact List.forall_mem_append.mpr ⟨isClauseLexeme_exportName s.name,
      List.forall_mem_cons.mpr ⟨rfl, isClauseLexeme_exportName renamed⟩⟩

theorem isClauseLexeme_specifiers (ss : List Specifier) :
    ∀ l ∈ specifierLexemes ss, isClauseLexeme l = true := by
  induction ss using specifierLexemes.induct with
  | case1 => exact fun l hl => by cases hl
  | case2 s => exact isClauseLexeme_specifier s
  | case3 s t ss ih =>
    exact List.forall_mem_append.mpr ⟨isClauseLexeme_specifier s,
      List.forall_mem_cons.mpr ⟨rfl, ih⟩⟩

theorem isClauseLexeme_bindings (b : NamedBindings) : ∀ l ∈ b.lexemes, isClauseLexeme l = true := by
  have hclose : isClauseLexeme (.punctuator 0x7D) = true := rfl
  refine List.forall_mem_append.mpr ⟨List.forall_mem_cons.mpr ⟨rfl,
    isClauseLexeme_specifiers b.specifiers⟩, ?_⟩
  split
  · exact List.forall_mem_cons.mpr ⟨rfl, List.forall_mem_singleton.mpr hclose⟩
  · exact List.forall_mem_singleton.mpr hclose

theorem isClauseLexeme_nameSpace (n : ModuleExportName) :
    ∀ l ∈ namespaceLexemes n, isClauseLexeme l = true :=
  List.forall_mem_cons.mpr ⟨rfl,
    List.forall_mem_cons.mpr ⟨rfl, isClauseLexeme_exportName n⟩⟩

theorem isClauseLexeme_clause (d : Declaration) : ∀ l ∈ d.clause, isClauseLexeme l = true := by
  have hcomma : isClauseLexeme (.punctuator 0x2C) = true := rfl
  cases d with
  | bare specifier => exact fun l hl => by cases hl
  | importFrom clause specifier =>
    cases clause with
    | defaultBinding n => exact isClauseLexeme_name n
    | nameSpace n => exact isClauseLexeme_nameSpace (.name n)
    | named b => exact isClauseLexeme_bindings b
    | defaultNameSpace d n =>
      exact List.forall_mem_append.mpr ⟨isClauseLexeme_name d,
        List.forall_mem_cons.mpr ⟨hcomma, isClauseLexeme_nameSpace (.name n)⟩⟩
    | defaultNamed d b =>
      exact List.forall_mem_append.mpr ⟨isClauseLexeme_name d,
        List.forall_mem_cons.mpr ⟨hcomma, isClauseLexeme_bindings b⟩⟩
  | exportFrom clause specifier =>
    cases clause with
    | all => exact List.forall_mem_singleton.mpr rfl
    | nameSpace n => exact isClauseLexeme_nameSpace n
    | named b => exact isClauseLexeme_bindings b

/-- What the search could take for something else reads `;`, `.` or `(`; only strings do. -/
structure Harmless (t : Token) : Prop where
  type : t.type ≠ .string
  semicolon : t.value ≠ js ";"
  dot : t.value ≠ js "."
  parenthesis : t.value ≠ js "("

theorem harmless_of_clause {l : Lexeme} {text : JsString} (hl : isClauseLexeme l = true)
    (hwf : l.WellFormed text) (hstring : ∀ quote body, l ≠ .string quote body) {t : Token}
    (ht : t ∈ l.tokens) : Harmless t := by
  cases l with
  | word value =>
    obtain rfl := List.mem_singleton.mp ht
    refine ⟨by simp [Token.identifier], ?_, ?_, ?_⟩ <;>
    · rintro rfl
      exact absurd hwf.1 (by decide)
  | number value =>
    obtain rfl := List.mem_singleton.mp ht
    refine ⟨by simp [Token.number], ?_, ?_, ?_⟩ <;>
    · rintro rfl
      exact absurd hwf.1 (by decide)
  | punctuator u =>
    obtain rfl := List.mem_singleton.mp ht
    obtain ⟨⟨hsemicolon, hdot⟩, hparenthesis⟩ : (u ≠ 0x3B ∧ u ≠ 0x2E) ∧ u ≠ 0x28 := by
      simpa [isClauseLexeme] using hl
    exact ⟨by simp [Token.punctuator], fun h => hsemicolon (List.head_eq_of_cons_eq h),
      fun h => hdot (List.head_eq_of_cons_eq h), fun h => hparenthesis (List.head_eq_of_cons_eq h)⟩
  | string quote body => exact absurd rfl (hstring quote body)
  | escape => cases ht
  | space | lineComment | blockComment | regex | template | pair => cases hl

theorem mem_codeTokens {ls : List Lexeme} {t : Token} :
    t ∈ codeTokens ls ↔ ∃ l ∈ ls, t ∈ l.tokens := by
  induction ls with
  | nil => simp [codeTokens]
  | cons l ls ih => simp [codeTokens, ih]

/-- A token of a clause is harmless, or that of a string. -/
theorem token_of_clause {d : Declaration} (hwf : ∀ l ∈ d.clause, ∃ text, l.WellFormed text)
    {t : Token} (ht : t ∈ codeTokens d.clause) :
    Harmless t ∨ ∃ quote body, Lexeme.string quote body ∈ d.clause ∧
      t = .string (unescaped body) (body.contains 0x5C) := by
  obtain ⟨l, hl, ht⟩ := mem_codeTokens.mp ht
  by_cases hstring : ∃ quote body, l = .string quote body
  · obtain ⟨quote, body, rfl⟩ := hstring
    exact .inr ⟨quote, body, hl, List.mem_singleton.mp ht⟩
  · obtain ⟨text, hwf⟩ := hwf l hl
    exact .inl (harmless_of_clause (isClauseLexeme_clause d l hl) hwf
      (fun quote body h => hstring ⟨quote, body, h⟩) ht)

/-! ## The search -/

theorem fromSpecifier_cons {t : Token} {tokens rest : List Token}
    (hclause : Clause (t :: tokens)) (hsemicolon : t.value ≠ js ";") :
    fromSpecifier (t :: tokens ++ .identifier (js "from") :: rest) =
      fromSpecifier (tokens ++ .identifier (js "from") :: rest) := by
  rw [List.cons_append, fromSpecifier, if_neg hsemicolon, if_neg]
  intro h
  simp only [Bool.and_eq_true, decide_eq_true_eq] at h
  obtain ⟨⟨-, hfrom⟩, hnext⟩ := h
  cases tokens with
  | nil => exact absurd hnext (by simp [Token.identifier])
  | cons u tokens =>
    have hu : u.type = .string := by simpa using hnext
    exact (List.isChain_cons_cons.mp hclause).1 hfrom hu

theorem fromSpecifier_eq_some {tokens rest : List Token} {specifier : Token}
    (hclause : Clause tokens) (hsemicolon : ∀ t ∈ tokens, t.value ≠ js ";")
    (hspecifier : specifier.type = .string) :
    fromSpecifier (tokens ++ .identifier (js "from") :: specifier :: rest) = some specifier := by
  induction tokens with
  | nil =>
    rw [List.nil_append, fromSpecifier, if_neg (by decide), if_pos]
    · rfl
    · simp [Token.identifier, hspecifier]
  | cons t tokens ih =>
    obtain ⟨ht, htokens⟩ := List.forall_mem_cons.mp hsemicolon
    rw [fromSpecifier_cons hclause ht]
    exact ih hclause.tail htokens

theorem fromSpecifier_eq_none {tokens rest : List Token} (hclause : Clause tokens)
    (hsemicolon : ∃ t ∈ tokens, t.value = js ";") :
    fromSpecifier (tokens ++ .identifier (js "from") :: rest) = none := by
  induction tokens with
  | nil => simp at hsemicolon
  | cons t tokens ih =>
    by_cases ht : t.value = js ";"
    · rw [List.cons_append, fromSpecifier, if_pos ht]
    · rw [fromSpecifier_cons hclause ht]
      obtain ⟨u, hu, hvalue⟩ := hsemicolon
      rcases List.mem_cons.mp hu with rfl | hu
      · exact absurd hvalue ht
      · exact ih hclause.tail ⟨u, hu, hvalue⟩

/-- The tokens behind the keyword. -/
def Declaration.rest (d : Declaration) : List Token :=
  match d with
  | .bare specifier => [specifier.token]
  | .importFrom _ specifier | .exportFrom _ specifier =>
    codeTokens d.clause ++ [.identifier (js "from"), specifier.token]

theorem codeTokens_declaration (d : Declaration) :
    codeTokens d.lexemes = .identifier d.keyword :: d.rest := by
  cases d with
  | bare => rfl
  | importFrom | exportFrom =>
    simp only [Declaration.lexemes, codeTokens, codeTokens_append, Declaration.rest]
    rfl

/-- The first token behind the keyword. -/
theorem head_of_clause {d : Declaration} {tokens : List Token}
    (hwf : ∀ l ∈ d.clause, ∃ text, l.WellFormed text) :
    ∀ t ∈ (codeTokens d.clause ++ .identifier (js "from") :: tokens).head?, Harmless t := by
  have hclause := clause_declaration (.identifier (js "from")) d
  intro t ht
  cases htokens : codeTokens d.clause with
  | nil =>
    rw [htokens] at ht
    obtain rfl : Token.identifier (js "from") = t := by simpa using ht
    exact ⟨by simp [Token.identifier], by decide, by decide, by decide⟩
  | cons u us =>
    rw [htokens] at ht hclause
    obtain rfl : u = t := by simpa using ht
    rcases token_of_clause hwf (htokens ▸ List.mem_cons_self) with h | ⟨_, _, -, rfl⟩
    · exact h
    · exact absurd rfl ((List.isChain_cons_cons.mp hclause).1 rfl)

/-- The search behind the keyword finds the specifier unless a string of the clause reads `;`. -/
theorem fromSpecifier_declaration {d : Declaration} {rest : List Token}
    (hwf : ∀ l ∈ d.clause, ∃ text, l.WellFormed text) :
    fromSpecifier (codeTokens d.clause ++ .identifier (js "from") :: d.specifier.token :: rest) =
        some d.specifier.token ∧
      (∀ quote body, Lexeme.string quote body ∈ d.clause → unescaped body ≠ js ";") ∨
    fromSpecifier (codeTokens d.clause ++ .identifier (js "from") :: d.specifier.token :: rest) =
        none ∧
      ¬ ∀ quote body, Lexeme.string quote body ∈ d.clause → unescaped body ≠ js ";" := by
  have hclause := (clause_declaration (.identifier (js "from")) d).tail
  by_cases hstrings : ∀ quote body, Lexeme.string quote body ∈ d.clause → unescaped body ≠ js ";"
  · refine .inl ⟨fromSpecifier_eq_some hclause (fun t ht => ?_) rfl, hstrings⟩
    rcases token_of_clause hwf ht with h | ⟨quote, body, hmem, rfl⟩
    · exact h.semicolon
    · exact hstrings quote body hmem
  · refine .inr ⟨fromSpecifier_eq_none hclause ?_, hstrings⟩
    push Not at hstrings
    obtain ⟨quote, body, hmem, hvalue⟩ := hstrings
    exact ⟨.string (unescaped body) (body.contains 0x5C),
      mem_codeTokens.mpr ⟨_, hmem, List.mem_singleton_self _⟩, hvalue⟩

/-- The search finds the specifier of a declaration exactly when the declaration is visible. -/
theorem specifierAt_eq_ok {path : JsString} {before rest : List Token} {d : Declaration}
    {found : Option Token} (hwf : ∀ l ∈ d.clause, ∃ text, l.WellFormed text)
    (h : specifierAt path before.getLast? (.identifier d.keyword) (d.rest ++ rest) = .ok found) :
    found = some d.specifier.token ∧ Visible before d ∨ found = none ∧ ¬ Visible before d := by
  have hkeyword : isDeclarationKeyword (.identifier d.keyword) = true := by cases d <;> rfl
  rw [specifierAt, if_neg (by simp [hkeyword])] at h
  split at h
  · rename_i hprevious
    refine .inr ⟨(Except.ok.inj h).symm, fun hvisible => ?_⟩
    obtain ⟨t, ht, hvalue⟩ := (Option.any_eq_true _ _).mp hprevious
    obtain ⟨hdot, hchain⟩ := hvisible.previous t ht
    simp [hdot, hchain] at hvalue
  rename_i hprevious
  have hprevious : ∀ t ∈ before.getLast?, t.value ≠ js "." ∧ t.value ≠ js "?." := by
    intro t ht
    have hlast : before.getLast? = some t := ht
    simpa [hlast] using hprevious
  cases d with
  | bare specifier =>
    have himport : (Token.identifier (Declaration.bare specifier).keyword).value = js "import" := rfl
    have hhead : ((Declaration.bare specifier).rest ++ rest).head? = some specifier.token := rfl
    have hstring : specifier.token.type = .string := rfl
    simp only [himport, hhead, Option.any_some, decide_true, Bool.true_and, hstring, if_true] at h
    split at h
    · rename_i hdot
      refine .inr ⟨(Except.ok.inj h).symm, fun hvisible => ?_⟩
      exact hvisible.bare specifier rfl (of_decide_eq_true hdot)
    · rename_i hdot
      split at h
      · cases h
      · refine .inl ⟨(Except.ok.inj h).symm, hprevious, fun s hs => ?_, fun _ _ h => by cases h⟩
        obtain rfl := Declaration.bare.inj hs
        exact fun hvalue => hdot (decide_eq_true hvalue)
  | importFrom clause specifier =>
    have hhead := @head_of_clause (.importFrom clause specifier) (specifier.token :: rest) hwf
    have hrest : (Declaration.importFrom clause specifier).rest ++ rest =
        codeTokens (Declaration.importFrom clause specifier).clause ++
          .identifier (js "from") :: specifier.token :: rest := by
      simp [Declaration.rest]
    have hany : ∀ p : Token → Bool, (∀ t, Harmless t → p t = false) →
        ((Declaration.importFrom clause specifier).rest ++ rest).head?.any p = false := by
      intro p hp
      rw [hrest, Option.any_eq_false]
      exact fun t ht => by simp [hp t (hhead t ht)]
    rw [hany _ fun t ht => decide_eq_false ht.dot, hany _ fun t ht => decide_eq_false ht.parenthesis,
      hany _ fun t ht => decide_eq_false ht.type] at h
    simp only [Bool.and_false, if_neg Bool.false_ne_true] at h
    rw [← Except.ok.inj h, hrest]
    rcases @fromSpecifier_declaration _ rest hwf with ⟨hsome, hstrings⟩ | ⟨hnone, hstrings⟩
    · exact .inl ⟨hsome, hprevious, nofun, hstrings⟩
    · exact .inr ⟨hnone, fun hvisible => hstrings hvisible.clause⟩
  | exportFrom clause specifier =>
    have hrest : (Declaration.exportFrom clause specifier).rest ++ rest =
        codeTokens (Declaration.exportFrom clause specifier).clause ++
          .identifier (js "from") :: specifier.token :: rest := by
      simp [Declaration.rest]
    have himport : ¬ (Token.identifier (Declaration.exportFrom clause specifier).keyword).value =
        js "import" := by
      show ¬ js "export" = js "import"
      decide
    simp only [himport, decide_false, Bool.false_and, if_neg Bool.false_ne_true] at h
    rw [← Except.ok.inj h, hrest]
    rcases @fromSpecifier_declaration _ rest hwf with ⟨hsome, hstrings⟩ | ⟨hnone, hstrings⟩
    · exact .inl ⟨hsome, hprevious, nofun, hstrings⟩
    · exact .inr ⟨hnone, fun hvisible => hstrings hvisible.clause⟩

/-! ## Completeness -/

/-- A file that the tokenizer reads as the lexemes of its source. -/
structure ReadsAs (path : JsString) (bytes : List UInt8) (ls : List Lexeme) : Prop where
  module : isModulePath path = true
  source : decodeSource bytes = some (codeText ls)
  wellFormed : codeWellFormed [] ls
  slashes : codeSlashes [] ls

theorem unescaped_of_notMem {body : JsString} (h : 0x5C ∉ body) : unescaped body = body := by
  induction body with
  | nil => rfl
  | cons u s ih =>
    obtain ⟨hu, hs⟩ := not_or.mp (mt List.mem_cons.mpr h)
    rw [unescaped_cons (Ne.symm hu), ih hs]

/-- A specifier that is resolved has no escapes, and is a builtin or a local path. -/
theorem resolveDependency_eq_ok {path : JsString} {N : Normalization} {l : Literal}
    {added : Option JsString} (h : resolveDependency path N l.token = .ok added) :
    0x5C ∉ l.body ∧ (l.body ∈ ALLOWED_NODE_BUILTINS ∨
      added = some (resolveSpecifier path l.body)) := by
  rw [resolveDependency] at h
  split at h
  · cases h
  rename_i hescaped
  have hbody : 0x5C ∉ l.body := by simpa [Literal.token, Token.string] using hescaped
  have hvalue : l.token.value = l.body := unescaped_of_notMem hbody
  refine ⟨hbody, ?_⟩
  rw [hvalue] at h
  split at h
  · split at h
    · cases h
    · rename_i hbuiltin
      exact .inl (by simpa using hbuiltin)
  · obtain ⟨dependency, hdependency, rfl⟩ := map_eq_ok.mp h
    have := validateArtifactPath_eq_ok hdependency
    exact .inr (by simpa using this.symm)

/-- What the search finds at the keyword of a declaration that stands in a source, and what
    follows for the returned list. -/
theorem covered_of_visible {path : JsString} {N : Normalization} {bytes : List UInt8}
    {ls pre : List Lexeme} {dependencies : List JsString} {d : Declaration}
    (hreads : ReadsAs path bytes ls)
    (hreturns : staticLocalDependencies path N bytes = .ok dependencies)
    (hoccurs : Occurs ls pre d) :
    (∃ rest, codeTokens ls = codeTokens pre ++ .identifier d.keyword :: rest ∧
      ∃ found, specifierAt path (codeTokens pre).getLast? (.identifier d.keyword) rest =
        .ok found ∧ (found = some d.specifier.token ↔ Visible (codeTokens pre) d)) ∧
    (Visible (codeTokens pre) d → Covered path dependencies d) := by
  obtain ⟨source, tokens, hsource, htokens, hpass, hmem⟩ :=
    staticLocalDependencies_eq_ok hreads.module hreturns
  obtain rfl := Option.some.inj (hsource.symm.trans hreads.source)
  obtain rfl := tokenizeModuleSource_code hreads.wellFormed hreads.slashes htokens
  obtain ⟨mid, post, rfl, hmid⟩ := hoccurs
  have hsplit : codeTokens (pre ++ mid ++ post) =
      codeTokens pre ++ .identifier d.keyword :: (d.rest ++ codeTokens post) := by
    rw [codeTokens_append, codeTokens_append, ← codeTokens_filter mid, hmid, codeTokens_declaration,
      List.append_assoc, List.cons_append]
  have hwf : ∀ l ∈ d.clause, ∃ text, l.WellFormed text := by
    intro l hl
    refine wellFormed_of_mem hreads.wellFormed ?_
    have hlexeme : l ∈ d.lexemes := by
      cases d with
      | bare => cases hl
      | importFrom | exportFrom =>
        exact List.mem_cons_of_mem _ (List.mem_append_left _ hl)
    rw [← hmid] at hlexeme
    exact List.mem_append_left _ (List.mem_append_right _ (List.mem_filter.mp hlexeme).1)
  obtain ⟨added, hadded⟩ := hpass _ _ _ hsplit
  obtain ⟨found, hfound, hresolved⟩ := dependencyAt_eq_ok hadded
  have hcases := specifierAt_eq_ok hwf hfound
  refine ⟨⟨_, hsplit, found, hfound, ?_⟩, fun hvisible => ?_⟩
  · rcases hcases with ⟨rfl, hvisible⟩ | ⟨rfl, hhidden⟩
    · exact iff_of_true rfl hvisible
    · exact iff_of_false nofun hhidden
  · obtain rfl : found = some d.specifier.token := by
      rcases hcases with ⟨hsome, -⟩ | ⟨-, hhidden⟩
      · exact hsome
      · exact absurd hvisible hhidden
    obtain ⟨hbody, hbuiltin | rfl⟩ := resolveDependency_eq_ok hresolved
    · exact ⟨hbody, .inl hbuiltin⟩
    · exact ⟨hbody, .inr ((hmem _).mpr ⟨_, _, _, hsplit, hadded⟩)⟩

/-- The import closure is complete for the declarations that are visible: for the list of one
    file, and for the entries of an accepted manifest. -/
theorem importClosure_complete (S : Hash) (N : Normalization) (host : ArtifactHost) :
    (∀ path bytes ls dependencies, ReadsAs path bytes ls →
      staticLocalDependencies path N bytes = .ok dependencies → ∀ pre d, Occurs ls pre d →
        (∃ rest, codeTokens ls = codeTokens pre ++ .identifier d.keyword :: rest ∧
          ∃ found, specifierAt path (codeTokens pre).getLast? (.identifier d.keyword) rest =
            .ok found ∧ (found = some d.specifier.token ↔ Visible (codeTokens pre) d)) ∧
        (Visible (codeTokens pre) d → Covered path dependencies d)) ∧
    ∀ options identity, verifyPomRxArtifactIdentity S N host options = .ok identity →
      ∃ packageRoot artifactManifestPath caseFoldingPath manifest,
        options.packageRoot = some (.string packageRoot) ∧
        options.artifactManifestPath = some (.string artifactManifestPath) ∧
        options.caseFoldingPath = some (.string caseFoldingPath) ∧
        readManifest S N host artifactManifestPath caseFoldingPath
          options.expectedArtifactManifestSha256 = .ok manifest ∧
        ∀ entry ∈ manifest.entries, ∃ fullPath bytes,
          resolveBelow packageRoot entry.path = .ok fullPath ∧
          host.readFile fullPath = some bytes ∧
          isText entry.sha256 (sha256PomRxV01Bytes S bytes).val = true ∧
          ∀ ls, ReadsAs entry.path bytes ls → ∀ pre d, Occurs ls pre d →
            Visible (codeTokens pre) d →
              Covered entry.path (manifest.entries.map ManifestEntry.path) d := by
  refine ⟨fun path bytes ls dependencies hreads hreturns pre d hoccurs =>
    covered_of_visible hreads hreturns hoccurs, fun options identity h => ?_⟩
  obtain ⟨packageRoot, artifactManifestPath, caseFoldingPath, manifest, hroot, hmanifest, hfolding,
    hread, hentries⟩ := verifyPomRxArtifactIdentity_entries h
  refine ⟨packageRoot, artifactManifestPath, caseFoldingPath, manifest, hroot, hmanifest, hfolding,
    hread, fun entry hentry => ?_⟩
  obtain ⟨bytes, dependencies, ⟨fullPath, hpath, hbytes⟩, hdigest, hscanned, hclosed⟩ :=
    hentries entry hentry
  refine ⟨fullPath, bytes, hpath, hbytes, hdigest, fun ls hreads pre d hoccurs hvisible => ?_⟩
  obtain ⟨hbody, hcovered⟩ := (covered_of_visible hreads hscanned hoccurs).2 hvisible
  exact ⟨hbody, hcovered.imp_right (hclosed _)⟩

/-! ## One module -/

/-- `import { name } from './util.mjs';`, where a name may be a string. -/
def sampleModule (name : List Lexeme) : List Lexeme :=
  [Lexeme.word (js "import"), Lexeme.space 0x20, Lexeme.punctuator 0x7B] ++ name ++
    [Lexeme.punctuator 0x7D, Lexeme.word (js "from"), Lexeme.string 0x27 (js "./util.mjs"),
      Lexeme.punctuator 0x3B]

def sampleImport (specifier : Specifier) : Declaration :=
  .importFrom (.named ⟨[specifier], false⟩) ⟨0x27, js "./util.mjs"⟩

def sampleName : Name := ⟨.word (js "a"), []⟩

/-- `a`. -/
def sampleSpecifier : Specifier := ⟨.name sampleName, none⟩

/-- `";" as a`. -/
def sampleSemicolon : Specifier := ⟨.literal ⟨0x22, js ";"⟩, some (.name sampleName)⟩

def sampleSemicolonLexemes : List Lexeme :=
  [.string 0x22 (js ";"), .space 0x20, .word (js "as"), .space 0x20, .word (js "a")]

def samplePath : JsString := js "lib/entry.mjs"

theorem importClosure_complete_sample :
    Covered samplePath [js "lib/util.mjs"] (sampleImport sampleSpecifier) := by
  have hreads : ReadsAs samplePath (utf8Encode (codeText (sampleModule [.word (js "a")])))
      (sampleModule [.word (js "a")]) := by
    refine ⟨by decide, by decide +kernel, ?_, ?_⟩
    · simp only [sampleModule, List.cons_append, List.nil_append, codeWellFormed, Lexeme.WellFormed]
      decide +kernel
    · simp only [sampleModule, List.cons_append, List.nil_append, codeSlashes, Lexeme.Slashes]
      decide +kernel
  have hreturns : staticLocalDependencies samplePath verbatim
      (utf8Encode (codeText (sampleModule [.word (js "a")]))) = .ok [js "lib/util.mjs"] :=
    toOption_eq_some.mp (by decide +kernel)
  have hoccurs : Occurs (sampleModule [.word (js "a")]) [] (sampleImport sampleSpecifier) :=
    ⟨(sampleModule [.word (js "a")]).dropLast, [.punctuator 0x3B], rfl, rfl⟩
  refine ((importClosure_complete sha256 verbatim ⟨fun _ => none, fun _ => none, fun _ => none,
    fun _ => none⟩).1 _ _ _ _ hreads hreturns _ _ hoccurs).2 ⟨?_, ?_, ?_⟩
  · intro token htoken
    cases htoken
  · intro literal hliteral
    cases hliteral
  intro quote body hmem
  simp [sampleImport, Declaration.clause, ImportClause.lexemes, NamedBindings.lexemes,
    specifierLexemes, Specifier.lexemes, sampleSpecifier, sampleName, ModuleExportName.lexemes,
    Name.lexemes, NamePart.lexeme] at hmem

/-- A string-named binding that reads `;` hides the file of its declaration. -/
theorem not_importClosure_semicolon :
    ¬ ∀ path bytes ls dependencies, isModulePath path = true →
      decodeSource bytes = some (codeText ls) → codeWellFormed [] ls →
      staticLocalDependencies path verbatim bytes = .ok dependencies →
      ∀ pre d, Occurs ls pre d → Covered path dependencies d := by
  intro h
  have hcovered := h samplePath (utf8Encode (codeText (sampleModule sampleSemicolonLexemes)))
    (sampleModule sampleSemicolonLexemes) [] (by decide) (by decide +kernel) ?_ ?_ []
    (sampleImport sampleSemicolon)
    ⟨(sampleModule sampleSemicolonLexemes).dropLast, [.punctuator 0x3B], rfl, rfl⟩
  · obtain ⟨-, hbuiltin | hmem⟩ := hcovered
    · exact absurd hbuiltin (by decide)
    · cases hmem
  · simp only [sampleModule, sampleSemicolonLexemes, List.cons_append, List.nil_append,
      codeWellFormed, Lexeme.WellFormed]
    decide +kernel
  · exact toOption_eq_some.mp (by decide +kernel)

end OpenRisk.Strict
