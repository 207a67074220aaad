import XmlTemplate.Failure
import XmlTemplate.Selector.Matching
import XmlTemplate.Selector.Parsing

/-!
Documents asked by a selector as it is written.
-/

namespace XmlTemplate

def Markup.Document.select (document : Document) (written : String) : Except Failure Forest :=
  match Selector.parse written with
  | .error (position, fault) => .error (.invalidSelector written position fault.message)
  | .ok selector => .ok (selector.select document)

end XmlTemplate
