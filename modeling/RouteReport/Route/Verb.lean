import RouteReport.Text.Blank
import RouteReport.Text.Case

namespace RouteReport

inductive Verb where
  | get
  | post
  | put
  | patch
  | delete
  | head
  | options
  | any
  deriving DecidableEq, Repr

namespace Verb

def all : List Verb := [.get, .post, .put, .patch, .delete, .head, .options, .any]

def name : Verb → Text
  | .get => "GET".toList
  | .post => "POST".toList
  | .put => "PUT".toList
  | .patch => "PATCH".toList
  | .delete => "DELETE".toList
  | .head => "HEAD".toList
  | .options => "OPTIONS".toList
  | .any => "ANY".toList

def token (verb : Verb) : Text := if verb = .any then [] else verb.name

/-- Unknown words, like no word, mean any request. -/
def ofToken (token : Text) : Verb :=
  (all.find? fun verb => verb.name == (Text.trim token).upper).getD .any

end Verb

end RouteReport
