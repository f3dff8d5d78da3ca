import Stencil.Grammar.Template
import Stencil.Lexeme

/-!
# Templates from source

A source that is no template is refused with the span of the token at which that shows.
-/

namespace Stencil

inductive SyntaxError
  | scan (error : ScanError)
  | grammar (error : ParseError Grammar.Fault) (span : Span)
deriving DecidableEq

namespace SyntaxError

def span : SyntaxError → Span
  | scan e => e.span
  | grammar _ s => s

def message : SyntaxError → String
  | scan e => e.message
  | grammar e s => e.message ++ " at " ++ s.text

end SyntaxError

/-- The empty span behind a source. -/
def Span.endOf (source : String) : Span :=
  let p := Position.start.after source.toList
  Span.since p p.offset

/-- The span of the lexeme that an error is about. -/
def SyntaxError.ofParseError (source : String) (lexemes : List Lexeme)
    (e : ParseError Grammar.Fault) : SyntaxError :=
  .grammar e ((lexemes[e.position]?.map Lexeme.span).getD (Span.endOf source))

def Template.parse (source : String) : Except SyntaxError Template :=
  match Lexeme.scan source with
  | .error e => .error (.scan e)
  | .ok lexemes =>
    match Grammar.template (lexemes.map Lexeme.token) with
    | .error e => .error (.ofParseError source lexemes e)
    | .ok t => .ok t

end Stencil
