import TypedTemplate.Proofs.Expr.Unblamed
import TypedTemplate.Proofs.SourceFile.Accounts
import TypedTemplate.Proofs.Statement.Cause

namespace TypedTemplate

namespace SourceFile

open Statement (bodyExpressions checkBlock)

theorem checkTemplates_reasons (context : Context) (templates : List Template) :
    (Log.concat (templates.map fun template => (checkBlock context .empty template.body).log)).Reasons
      context.version.isModern
      (templates.flatMap fun template => (bodyExpressions template.body).flatMap Expr.subterms) := by
  induction templates with
  | nil => exact .empty
  | cons template rest ih =>
    rw [List.flatMap_cons, List.map_cons, Log.concat]
    exact (Statement.checkBlock_reasons context template.body .empty).append ih

variable (typeNamed : String → Option Ty) (signature : String → Option Signature)

-- Nothing unknown is blamed in a file that was read, whatever the types and functions it is
-- checked with. Only where a literal is asked for is an unknown key refused, as any other is.
theorem check_spares_unknown {tokens : List Token} {name : String} {version : Version} {file : SourceFile}
    (parsed : parse tokens name version = .ok file) :
    ∀ diagnostic ∈ (file.check typeNamed signature).diagnostics, ∀ expr ∈ file.expressions,
      diagnostic.node = some expr.id → expr.BlamesUnknown (file.check typeNamed signature).typeOf diagnostic.fault →
      expr.NeedsLiteral (file.check typeNamed signature).typeOf diagnostic.fault := by
  intro diagnostic listed expr inside about blames
  have numbers := check_distinct typeNamed signature parsed
  have distinct := parse_distinct parsed
  rw [idsOf_roots] at distinct
  have reasons := checkTemplates_reasons ⟨typeNamed, signature, file.version⟩ file.templates
  have recorded (id : Nat) (type : Ty) (found : (file.check typeNamed signature).Recorded id type) :
      (file.check typeNamed signature).typeOf id = some type := Log.typeOf_of_mem numbers found
  have only {term : Expr} (inside' : term ∈ file.expressions) (about' : some term.id = some expr.id) : term = expr :=
    List.inj_on_of_nodup_map distinct inside' inside (Option.some.inj about')
  cases reasons diagnostic listed with
  | nobody unplaced => exact nomatch unplaced.symm.trans about
  | inside caused =>
    obtain ⟨term, inside', fault, rfl, cause⟩ := caused
    cases only inside' about
    exact (cause.imp recorded).spares_unknown blames
  | loop inside' typed known =>
    cases only inside' about
    exact absurd blames.of_loop fun unknown => known (Option.some.inj ((recorded _ _ typed).symm.trans unknown))

-- `{template .t}{@param r: [a: int]}{@param k: ?}{$r[$k]}{/template}`
def keyedSource : String :=
  "\x7btemplate .t\x7d\x7b@param r: [a: int]\x7d\x7b@param k: ?\x7d\x7b$r[$k]\x7d\x7b/template\x7d"

def keyedTokens : List Token := (Token.tokenize keyedSource Token.defaultFile).toOption.getD []

def keyedFile : SourceFile := (parse keyedTokens Token.defaultFile .v2_4).toOption.getD ⟨none, [], .v2_4⟩

def keyedLog : Log := keyedFile.check (Context.builtin .v2_4).typeNamed (Context.builtin .v2_4).signature

theorem keyed_parsed : parse keyedTokens Token.defaultFile .v2_4 = .ok keyedFile := parse_found (by decide +kernel)

theorem keyed_blames : ∃ diagnostic ∈ keyedLog.diagnostics, ∃ expr ∈ keyedFile.expressions,
    diagnostic.node = some expr.id ∧ expr.BlamesUnknown keyedLog.typeOf diagnostic.fault := by
  have reported : keyedLog.diagnostics =
      [⟨.invalidKeyType "string literal" "?", ⟨47, Token.defaultFile⟩, some 2⟩] := by decide +kernel
  have shown : keyedFile.expressions.any (fun
      | .index node _ key _ => node.id == 2 && (keyedLog.typeOf key.id).any Ty.isUnknown
      | _ => false) = true := by decide +kernel
  obtain ⟨expr, inside, found⟩ := List.any_eq_true.mp shown
  cases expr with
  | index node base key nullSafe =>
    rw [Bool.and_eq_true, beq_iff_eq, Option.any_eq_true] at found
    obtain ⟨same, type, typed, unknown⟩ := found
    cases type <;> cases unknown
    refine ⟨_, reported ▸ List.mem_singleton_self _, _, inside, ?_, .key typed⟩
    exact congrArg some same.symm
  | _ => cases found

theorem unknown_key_not_spared : ¬∀ (typeNamed : String → Option Ty) (signature : String → Option Signature)
    (tokens : List Token) (name : String) (version : Version) (file : SourceFile),
    parse tokens name version = .ok file → ∀ diagnostic ∈ (file.check typeNamed signature).diagnostics,
      ∀ expr ∈ file.expressions, diagnostic.node = some expr.id →
        ¬expr.BlamesUnknown (file.check typeNamed signature).typeOf diagnostic.fault := by
  intro spared
  obtain ⟨diagnostic, listed, expr, inside, about, blames⟩ := keyed_blames
  exact spared _ _ _ _ _ _ keyed_parsed diagnostic listed expr inside about blames

theorem check_spares_unknown_keyedFile : ∃ diagnostic ∈ keyedLog.diagnostics, ∃ expr ∈ keyedFile.expressions,
    expr.BlamesUnknown keyedLog.typeOf diagnostic.fault ∧ expr.NeedsLiteral keyedLog.typeOf diagnostic.fault := by
  obtain ⟨diagnostic, listed, expr, inside, about, blames⟩ := keyed_blames
  exact ⟨diagnostic, listed, expr, inside, blames,
    check_spares_unknown _ _ keyed_parsed diagnostic listed expr inside about blames⟩

end SourceFile
end TypedTemplate
