import MessageRouting.Failure
import MessageRouting.Regex
import MessageRouting.Text.LetterCase
import MessageRouting.Text.Search

/-!
# Matching failures

A catch clause tells by a matcher which failures it handles: by a message of the chain, by the whole chain of
messages, by a type in the chain, or by the very instance.
-/

namespace MessageRouting

/-- Which failures a catch clause handles. -/
inductive Matcher where
  /-- All. -/
  | any
  /-- Those with a given message in their chain. -/
  | equals (text : String)
  /-- Those whose full message contains a text, in letters of either case; the text is in lower case. -/
  | contains (lowered : String)
  /-- Those with an error of a type in their chain. -/
  | is (type : ErrorType)
  /-- A given instance, wherever it is in the chain. -/
  | identity (target : Raised)
  /-- Those whose full message a pattern matches. -/
  | regex (pattern : Regex)

namespace Matcher

/-- Matches full messages that contain a text, in letters of either case. -/
def containing (text : String) : Matcher := .contains (Text.toLower text)

/-- The matcher handles a failure. -/
def accepts (matcher : Matcher) (e : Raised) : Bool :=
  match matcher with
  | .any => true
  | .equals text => e.messages.contains text
  | .contains lowered => Text.contains (Text.toLower e.fullMessage) lowered
  | .is type => e.is type
  | .identity target => e.wraps target
  | .regex pattern => pattern.isMatch e.fullMessage

end Matcher

end MessageRouting
