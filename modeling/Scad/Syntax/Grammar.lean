import Scad.Syntax.Lexeme

/-!
The grammar of the language as data: parsing expressions and one right side
for each rule. Choice is ordered and repetition is greedy, so the order of the
alternatives is part of the language. Two consequences stand out: `'>'` and
`'<'` come before the rules for `>=` and `<=`, which therefore never match, and
no expression begins with an assertion.
-/

namespace Scad

inductive Rule where
  | input | includeFile | useFile
  | statement | stmtObj | stmtEmpty | stmtList | stmtDeclMod | stmtDeclFn | assignment
  | moduleInstantiation | modInstBang | modInstHash | modInstPerc | modInstStar
  | modInstChild | modInstSpecial
  | ifelseStatement | ifStatement | childStatements | childStatement | noChild | explicitChild
  | moduleId | specialId | modCall | specialCall
  | expr | exprFn | exprLet | exprAssert | exprEcho | exprCase | exprOrEmpty
  | logicOr | logicAnd | equality | comparison | addition | multiplication | unary | exponent
  | call | addon | addArgs | addIndex | addMember
  | primary | prTrue | prFalse | prUndef | prNum | prStr | prSym | prParen | prFor2 | prFor3
  | prVecEmpty | prVecElems
  | listComprehensionElements | lceLet | lceEach | lceFor | lceFor3 | lceIf
  | listComprehensionElementsP | lcepB
  | optionalTrailingComma | vectorElements | vectorElement
  | parameters | parameterList | parameter | arguments | argumentList | argument
  | doubleQuoted | singleQuoted | symbol
  | kwModule | kwFunction | kwIf | kwElse | kwLet | kwAssert | kwEcho | kwFor | kwEach
  | opLe | opGe | opEq | opNeq | opAnd | opOr
  deriving DecidableEq, Repr

/-- The name under which a rule appears in a parse tree. -/
def Rule.name : Rule → String
  | input => "Input" | includeFile => "Include" | useFile => "Use"
  | statement => "statement" | stmtObj => "stmt_obj" | stmtEmpty => "stmt_empty"
  | stmtList => "stmt_list" | stmtDeclMod => "stmt_decl_mod" | stmtDeclFn => "stmt_decl_fn"
  | assignment => "assignment"
  | moduleInstantiation => "module_instantiation" | modInstBang => "mod_inst_bang"
  | modInstHash => "mod_inst_hash" | modInstPerc => "mod_inst_perc"
  | modInstStar => "mod_inst_star" | modInstChild => "mod_inst_child"
  | modInstSpecial => "mod_inst_special"
  | ifelseStatement => "ifelse_statement" | ifStatement => "if_statement"
  | childStatements => "child_statements" | childStatement => "child_statement"
  | noChild => "no_child" | explicitChild => "explicit_child"
  | moduleId => "module_id" | specialId => "msp_id" | modCall => "mod_call"
  | specialCall => "special_call"
  | expr => "expr" | exprFn => "expr_fn" | exprLet => "expr_let" | exprAssert => "expr_assert"
  | exprEcho => "expr_echo" | exprCase => "expr_case" | exprOrEmpty => "expr_or_empty"
  | logicOr => "logic_or" | logicAnd => "logic_and" | equality => "equality"
  | comparison => "comparison" | addition => "addition" | multiplication => "multiplication"
  | unary => "unary" | exponent => "exponent"
  | call => "call" | addon => "addon" | addArgs => "add_args" | addIndex => "add_index"
  | addMember => "add_member"
  | primary => "primary" | prTrue => "pr_true" | prFalse => "pr_false" | prUndef => "pr_undef"
  | prNum => "pr_Num" | prStr => "pr_Str" | prSym => "pr_Sym" | prParen => "pr_paren"
  | prFor2 => "pr_for2" | prFor3 => "pr_for3" | prVecEmpty => "pr_vec_empty"
  | prVecElems => "pr_vec_elems"
  | listComprehensionElements => "list_comprehension_elements" | lceLet => "lce_let"
  | lceEach => "lce_each" | lceFor => "lce_for" | lceFor3 => "lce_for3" | lceIf => "lce_if"
  | listComprehensionElementsP => "list_comprehension_elements_p" | lcepB => "lcep_b"
  | optionalTrailingComma => "optional_trailing_comma" | vectorElements => "vector_elements"
  | vectorElement => "vector_element"
  | parameters => "parameters" | parameterList => "parameter_list" | parameter => "parameter"
  | arguments => "arguments" | argumentList => "argument_list" | argument => "argument"
  | doubleQuoted => "String1" | singleQuoted => "String2" | symbol => "Symbol"
  | kwModule => "MODULE" | kwFunction => "FUNCTION" | kwIf => "IF" | kwElse => "ELSE"
  | kwLet => "LET" | kwAssert => "ASSERT" | kwEcho => "ECHO" | kwFor => "FOR"
  | kwEach => "EACH"
  | opLe => "LE" | opGe => "GE" | opEq => "EQ" | opNeq => "NEQ" | opAnd => "AND" | opOr => "OR"

/-- What a single match consumes: a fixed text, a member of a lexical class, or
nothing at the end of the text. -/
inductive Terminal where
  | word (text : String)
  | lexeme (kind : Lexeme)
  | finish
  deriving DecidableEq, Repr

inductive Peg where
  | terminal (t : Terminal)
  | rule (r : Rule)
  | seq (first second : Peg)
  | alt (first second : Peg)
  | many (body : Peg)
  | opt (body : Peg)
  deriving DecidableEq, Repr

namespace Peg

def word (text : String) : Peg := terminal (.word text)

def lexeme (kind : Lexeme) : Peg := terminal (.lexeme kind)

def all (first : Peg) : List Peg → Peg
  | [] => first
  | second :: rest => seq first (all second rest)

def any (first : Peg) : List Peg → Peg
  | [] => first
  | second :: rest => alt first (any second rest)

/-- One or more items with `divider` between them. -/
def separated (item divider : Peg) : Peg := seq item (many (seq divider item))

end Peg

open Peg in
/-- The right side of each rule. A rule that only renames another one has that
one's right side. -/
def Rule.body : Rule → Peg
  | input => seq (many (any (rule includeFile) [rule useFile, rule statement])) (terminal .finish)
  | includeFile => seq (word "include") (lexeme .path)
  | useFile => seq (word "use") (lexeme .path)
  | statement =>
    any (rule stmtEmpty) [rule stmtObj, rule assignment, rule stmtDeclMod, rule stmtDeclFn]
  | stmtObj => alt (rule stmtList) (rule moduleInstantiation)
  | stmtEmpty => word ";"
  | stmtList => all (word "\x7b") [many (rule statement), word "\x7d"]
  | stmtDeclMod =>
    all (rule kwModule) [rule symbol, word "(", rule parameters, word ")", rule statement]
  | stmtDeclFn =>
    all (rule kwFunction)
      [rule symbol, word "(", rule parameters, word ")", word "=", rule expr, word ";"]
  | assignment => all (rule symbol) [word "=", rule expr, word ";"]
  | moduleInstantiation =>
    any (rule ifelseStatement)
      [rule modInstBang, rule modInstHash, rule modInstPerc, rule modInstStar,
        rule modInstSpecial, rule modInstChild]
  | modInstBang => seq (word "!") (rule moduleInstantiation)
  | modInstHash => seq (word "#") (rule moduleInstantiation)
  | modInstPerc => seq (word "%") (rule moduleInstantiation)
  | modInstStar => seq (word "*") (rule moduleInstantiation)
  | modInstChild => seq (rule modCall) (rule childStatement)
  | modInstSpecial => seq (rule specialCall) (rule childStatement)
  | ifelseStatement => seq (rule ifStatement) (opt (seq (rule kwElse) (rule childStatement)))
  | ifStatement => all (rule kwIf) [word "(", rule expr, word ")", rule childStatement]
  | childStatements => many (alt (rule childStatement) (rule assignment))
  | childStatement => any (rule noChild) [rule explicitChild, rule moduleInstantiation]
  | noChild => word ";"
  | explicitChild => all (word "\x7b") [rule childStatements, word "\x7d"]
  | moduleId => lexeme .symbol
  | specialId =>
    any (rule kwFor) [rule kwLet, rule kwAssert, rule kwEcho, rule kwEach]
  | modCall => all (rule moduleId) [word "(", rule arguments, word ")"]
  | specialCall => all (rule specialId) [word "(", rule arguments, word ")"]
  | expr => any (rule exprFn) [rule exprLet, rule exprEcho, rule exprCase]
  | exprFn => all (rule kwFunction) [word "(", rule parameters, word ")", rule expr]
  | exprLet => all (rule kwLet) [word "(", rule arguments, word ")", rule expr]
  | exprAssert => all (rule kwAssert) [word "(", rule arguments, word ")", rule exprOrEmpty]
  | exprEcho => all (rule kwEcho) [word "(", rule arguments, word ")", rule exprOrEmpty]
  | exprCase =>
    seq (rule logicOr) (opt (all (word "?") [rule expr, word ":", rule expr]))
  | exprOrEmpty => opt (rule expr)
  | logicOr => separated (rule logicAnd) (rule opOr)
  | logicAnd => separated (rule equality) (rule opAnd)
  | equality => separated (rule comparison) (alt (rule opEq) (rule opNeq))
  | comparison =>
    separated (rule addition) (any (word ">") [rule opGe, word "<", rule opLe])
  | addition => separated (rule multiplication) (alt (word "+") (word "-"))
  | multiplication => separated (rule unary) (any (word "*") [word "/", word "%"])
  | unary =>
    alt (rule exponent) (seq (opt (any (word "+") [word "-", word "!"])) (rule exponent))
  | exponent => seq (rule call) (opt (seq (word "^") (rule unary)))
  | call => seq (rule primary) (many (rule addon))
  | addon => any (rule addArgs) [rule addIndex, rule addMember]
  | addArgs => all (word "(") [rule arguments, word ")"]
  | addIndex => all (word "[") [rule expr, word "]"]
  | addMember => seq (word ".") (rule symbol)
  | primary =>
    any (rule prTrue)
      [rule prFalse, rule prUndef, rule prNum, rule prStr, rule prSym, rule prParen,
        rule prFor2, rule prFor3, rule prVecEmpty, rule prVecElems]
  | prTrue => word "true"
  | prFalse => word "false"
  | prUndef => word "undef"
  | prNum => lexeme .number
  | prStr => alt (rule doubleQuoted) (rule singleQuoted)
  | prSym => lexeme .symbol
  | prParen => all (word "(") [rule expr, word ")"]
  | prFor2 => all (word "[") [rule expr, word ":", rule expr, word "]"]
  | prFor3 => all (word "[") [rule expr, word ":", rule expr, word ":", rule expr, word "]"]
  | prVecEmpty => seq (word "[") (word "]")
  | prVecElems =>
    all (word "[") [rule vectorElements, rule optionalTrailingComma, word "]"]
  | listComprehensionElements =>
    any (rule lceLet) [rule lceEach, rule lceFor, rule lceFor3, rule lceIf]
  | lceLet =>
    all (rule kwLet) [word "(", rule arguments, word ")", rule listComprehensionElementsP]
  | lceEach => seq (rule kwEach) (rule vectorElement)
  | lceFor => all (rule kwFor) [word "(", rule arguments, word ")", rule vectorElement]
  | lceFor3 =>
    all (rule kwFor)
      [word "(", rule arguments, word ";", rule expr, word ";", rule arguments, word ")",
        rule vectorElement]
  | lceIf =>
    all (rule kwIf)
      [word "(", rule expr, word ")", rule vectorElement,
        opt (seq (rule kwElse) (rule vectorElement))]
  | listComprehensionElementsP => alt (rule listComprehensionElements) (rule lcepB)
  | lcepB => all (word "(") [rule listComprehensionElements, word ")"]
  | optionalTrailingComma => opt (word ",")
  | vectorElements => separated (rule vectorElement) (word ",")
  | vectorElement => alt (rule listComprehensionElementsP) (rule expr)
  | parameters => opt (seq (rule parameterList) (rule optionalTrailingComma))
  | parameterList => separated (rule parameter) (word ",")
  | parameter => seq (rule symbol) (opt (seq (word "=") (rule expr)))
  | arguments => opt (seq (rule argumentList) (rule optionalTrailingComma))
  | argumentList => separated (rule argument) (word ",")
  | argument => seq (opt (seq (rule symbol) (word "="))) (rule expr)
  | doubleQuoted => lexeme .doubleQuoted
  | singleQuoted => lexeme .singleQuoted
  | symbol => lexeme .symbol
  | kwModule => word "module"
  | kwFunction => word "function"
  | kwIf => word "if"
  | kwElse => word "else"
  | kwLet => word "let"
  | kwAssert => word "assert"
  | kwEcho => word "echo"
  | kwFor => word "for"
  | kwEach => word "each"
  | opLe => word "<="
  | opGe => word ">="
  | opEq => word "=="
  | opNeq => word "!="
  | opAnd => word "&&"
  | opOr => word "||"

end Scad
