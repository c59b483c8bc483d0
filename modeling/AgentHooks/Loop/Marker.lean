import AgentHooks.Contract.Message
import AgentHooks.Settings.Basic
import AgentHooks.Text.Blank
import AgentHooks.Text.Fold

/-!
The mark by which an agent says that it is done: a token between an opening and a closing tag, blanks
around the token allowed, anywhere in a text, without regard to case.
-/

namespace AgentHooks

structure Marker where
  opening : List Char
  token : List Char
  closing : List Char

namespace Marker

/-- The token that a promise stands for: blanks around it do not count, and an empty one is `DONE`. -/
def promiseToken (promise : String) : List Char :=
  match Text.trimBlank promise.toList with
  | [] => "DONE".toList
  | token => token

def ofMode (mode : CompletionMode) (promise : String) : Marker :=
  match mode with
  | .promise => ⟨"<promise>".toList, promiseToken promise, "</promise>".toList⟩
  | .objective => ⟨"<objective-complete>".toList, "true".toList, "</objective-complete>".toList⟩

def after? : List Char → List Char → Option (List Char)
  | [], cs => some cs
  | _ :: _, [] => none
  | w :: word, c :: cs => if Text.sameFold w c then after? word cs else none

def afterBlanks (found : List Char → Bool) : List Char → Bool
  | [] => found []
  | c :: cs => found (c :: cs) || (Text.isBlank c && afterBlanks found cs)

def startsAt (m : Marker) (cs : List Char) : Bool :=
  match after? m.opening cs with
  | none => false
  | some cs => afterBlanks (fun cs =>
      match after? m.token cs with
      | none => false
      | some cs => afterBlanks (fun cs => (after? m.closing cs).isSome) cs) cs

def occursIn (m : Marker) : List Char → Bool
  | [] => m.startsAt []
  | c :: cs => m.startsAt (c :: cs) || m.occursIn cs

def isIn (m : Marker) (text : String) : Bool :=
  m.occursIn text.toList

end Marker

end AgentHooks
