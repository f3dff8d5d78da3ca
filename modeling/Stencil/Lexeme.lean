import Stencil.Span
import Stencil.Token.Rules

/-!
# Lexemes

The tokens of a source with their spans. A scan is inside a marker from an opener on until the
closer, and outside of markers otherwise.
-/

namespace Stencil

structure Lexeme where
  token : Token
  span : Span
deriving DecidableEq, Inhabited

/-- Why a source cannot be split into tokens. -/
inductive ScanError
  /-- No token starts at `span`, where the source goes on with `found`. -/
  | broken (fault : Token.Fault) (found : String) (span : Span)
  /-- The source ends inside of the marker whose opener is at `span`. -/
  | unclosedMarker (span : Span)
deriving DecidableEq

namespace ScanError

def span : ScanError → Span
  | broken _ _ s => s
  | unclosedMarker s => s

def message : ScanError → String
  | broken fault _ s => fault.message ++ " at " ++ s.text
  | unclosedMarker s => "marker opened at " ++ s.text ++ " is never closed with `\x7d\x7d`"

end ScanError

namespace Lexeme

/-- The marker that is open behind `token`, at `span`. -/
def markerAfter (token : Token) (span : Span) (marker : Option Span) : Option Span :=
  match token with
  | .opener _ => some span
  | .closer => none
  | _ => marker

def ruleFor (marker : Option Span) : Token.Rule :=
  if marker.isSome then Token.insideRule else Token.outsideRule

/-- An error shows this many of the characters it stands at. -/
def foundLength : Nat := 20

def brokenAt (p : Position) (cs : List Char) (fault : Token.Fault) : ScanError :=
  .broken fault (String.ofList (cs.take foundLength)) (Span.since p (p.offset + 1))

/-- The lexemes of the characters from `p` on. Every token takes a character, so a limit of the
number of characters is never reached. -/
def scanFrom : Nat → Position → Option Span → List Char → Except ScanError (List Lexeme)
  | _, _, none, [] => .ok []
  | _, _, some s, [] => .error (.unclosedMarker s)
  | 0, _, _, _ :: _ => .ok []
  | limit + 1, p, marker, c :: cs =>
    match ruleFor marker (c :: cs) with
    | .taken token rest =>
      let q := p.after ((c :: cs).take (cs.length + 1 - rest.length))
      let span := Span.since p q.offset
      (scanFrom limit q (markerAfter token span marker) rest).map (⟨token, span⟩ :: ·)
    | .broken fault => .error (brokenAt p (c :: cs) fault)
    | .refused => .error (brokenAt p (c :: cs) (.unexpectedCharacter c))

def scan (source : String) : Except ScanError (List Lexeme) :=
  scanFrom source.toList.length Position.start none source.toList

end Lexeme

end Stencil
