/-!
# Private names

A name that starts with two underscores and does not end with two belongs to the class in whose
body it stands: there it is spelled with the name of that class in front.
-/

namespace DomainModel.PrivateName

/-- Whether a name belongs to the class in whose body it stands. -/
def isPrivate (name : String) : Bool :=
  ['_', '_'].isPrefixOf name.toList && !(['_', '_'].isSuffixOf name.toList)

def stem (owner : String) : String := String.ofList (owner.toList.dropWhile (· = '_'))

/-- How a name is spelled in the body of a class; a class of nothing but underscores changes none.
-/
def spell (owner name : String) : String :=
  if isPrivate name && !(stem owner).isEmpty then "_" ++ stem owner ++ name else name

theorem spell_of_not_isPrivate {owner name : String} (h : isPrivate name = false) :
    spell owner name = name := by
  simp [spell, h]

end DomainModel.PrivateName
