import TypedTemplate.Proofs.Statement.Minted
import TypedTemplate.SourceFile

namespace TypedTemplate

open Parsed

namespace SourceFile

open Statement

theorem parsePackageName_keeps (cursor : Cursor) : (parsePackageName cursor).Ensures cursor.Keeps := by
  refine (cursor.consume_keeps _).andThen fun _ keyword shorter same => ?_
  refine (keyword.consume_keeps _).after fun _ nameStart _ same' => ?_
  refine (parseName_keeps nameStart).after fun name afterName _ same'' => ?_
  refine (parseAttributes_keeps afterName).upTo fun _ last _ passed => ?_
  exact (last.consume_keeps _).after fun _ done _ closed => closed.trans (passed.trans (same''.trans (same'.trans same)))

theorem parseTemplate_minted (cursor : Cursor) : (parseTemplate cursor).Ensures
    fun template next => Minted cursor.nextId next.nextId (Expr.idsOf (bodyExpressions template.body)) := by
  refine (cursor.consume_keeps _).andThen fun opening keyword shorter same => ?_
  refine (keyword.consume_keeps _).after fun _ nameStart _ same' => ?_
  refine (parseName_keeps nameStart).after fun name afterName _ same'' => ?_
  refine (parseAttributes_keeps afterName).upTo fun _ last _ passed => ?_
  refine (last.consume_keeps _).after fun _ bodyStart _ opened => ?_
  refine (parseBlock_minted bodyStart).upTo fun body closing _ minted => ?_
  refine (parseClosing_keeps _ closing).after fun _ done _ closed => ?_
  show Minted _ _ (Expr.idsOf (bodyExpressions body))
  rw [closed, ← opened.trans (passed.trans (same''.trans (same'.trans same)))]
  exact minted

def roots (file : SourceFile) : List Expr := file.templates.flatMap fun template => bodyExpressions template.body

theorem expressions_eq (file : SourceFile) : file.expressions = file.roots.flatMap Expr.subterms := by
  rw [expressions, roots, List.flatMap_assoc]

theorem parseRest_minted (version : Version) (packageName : Option String) (cursor : Cursor) :
    (parseRest version packageName cursor).Ensures
      fun file next => Minted cursor.nextId next.nextId (Expr.idsOf file.roots) := by
  rw [parseRest]
  split
  · exact .none cursor.nextId
  split
  · apply Ensures.loosen
    refine (cursor.consume_keeps _).andThen fun _ next shorter same => ?_
    rw [← same]
    exact (parseRest_minted version packageName next).upTo fun _ _ _ found => found
  split
  · apply Ensures.loosen
    refine (parsePackageName_keeps cursor).andThen fun name next shorter same => ?_
    rw [← same]
    exact (parseRest_minted version (some name) next).upTo fun _ _ _ found => found
  split
  · apply Ensures.loosen
    refine (parseTemplate_minted cursor).andThen fun template next shorter minted => ?_
    refine (parseRest_minted version packageName next).upTo fun file done _ minted' => ?_
    show Minted _ _ (Expr.idsOf (bodyExpressions template.body ++ file.roots))
    rw [Expr.idsOf_append]
    exact minted.append minted'
  · trivial
termination_by cursor.size

theorem parse_increasing {tokens : List Token} {name : String} {version : Version} {file : SourceFile}
    (parsed : parse tokens name version = .ok file) : (Expr.idsOf file.roots).Pairwise (· < ·) := by
  obtain ⟨_, minted⟩ := (parseRest_minted version none (.start tokens name)).result parsed
  exact minted.increasing

theorem parse_distinct {tokens : List Token} {name : String} {version : Version} {file : SourceFile}
    (parsed : parse tokens name version = .ok file) : (Expr.idsOf file.roots).Nodup :=
  (parse_increasing parsed).imp Nat.ne_of_lt

end SourceFile
end TypedTemplate
