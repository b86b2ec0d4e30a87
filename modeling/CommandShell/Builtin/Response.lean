import CommandShell.Session
import CommandShell.Text.Layout

/-!
What the body of a command answers: the session it leaves, its events, and either a reply or the
wish to have a macro run, whose outcome then is the reply.
-/

namespace CommandShell

/-- How a command goes on. -/
inductive Next where
  | reply (r : Reply)
  | runMacro (name : Text)

/-- The answer of a body. -/
structure Response where
  session : Session
  events : List Event := []
  next : Next

namespace Response

/-- Says a text and changes nothing. -/
def say (s : Session) (text : Text) : Response := ⟨s, [], .reply (.say text)⟩

/-- Says a text after a change. -/
def done (s : Logged Session) (text : Text) : Response :=
  ⟨s.value, s.events, .reply (.say text)⟩

/-- Fails and changes nothing. -/
def fail (s : Session) (f : Failure) : Response := ⟨s, [], .reply (.failure f)⟩

end Response

end CommandShell
