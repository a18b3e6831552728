import CommitPolicy.Pattern.Expr

namespace CommitPolicy

structure Pattern where
  source : String
  expr : Pattern.Expr
deriving Inhabited

namespace Pattern

def occursIn (p : Pattern) (text : String) : Bool := p.expr.occursIn text.toList

/-- A library that compiles the sources that it accepts and keeps them with the pattern. -/
class Compiler where
  compile? : String → Option Pattern
  source_of_compile? {source : String} {p : Pattern} : compile? source = some p → p.source = source

end Pattern

end CommitPolicy
