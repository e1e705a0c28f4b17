import Adocify.AsciiDoc.Render

/-! One renderer and the documents that it renders in turn. Each rendering begins afresh; what passes
from one to the next is the mapping of attributes that they share. -/

namespace Adocify.AsciiDoc

structure Assignment where
  document : Node
  /-- A mapping for this document alone, if it does not use the shared one. -/
  own : Option Attributes := none

structure Session where
  options : Options
  shared : Attributes
  /-- The state that the last rendering left. -/
  context : Context

namespace Session

def start (options : Options) (shared : Attributes) : Session := { options, shared, context := { attributes := [] } }

def mapping (session : Session) (own : Option Attributes) : Attributes := own.getD session.shared

/-- What a rendering leaves to the next one. -/
def left (session : Session) (own : Option Attributes) (context : Context) : Session :=
  { session with context, shared := if own.isNone then context.attributes else session.shared }

/-- Renders one document more. -/
def next (session : Session) (assignment : Assignment) : Except Failure Text × Session :=
  let rendering := render session.options (session.mapping assignment.own) assignment.document
  (rendering.outcome, session.left assignment.own rendering.context)

/-- The session after several documents, whether or not they could be rendered. -/
def after (session : Session) (assignments : List Assignment) : Session :=
  assignments.foldl (fun current assignment => (current.next assignment).2) session

end Session

end Adocify.AsciiDoc
