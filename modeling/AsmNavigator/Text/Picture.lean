import AsmNavigator.Text.LowerCase
import AsmNavigator.Text.PictureNames
import AsmNavigator.Text.Words

/-!
# Pictures by name

A name between two colons stands for a picture. It may end in a request for the picture
form or the text form of the character. A name that is not known stays as it is, and the
colon behind it begins no other name.
-/

namespace AsmNavigator.Text

/-- Names with their pictures, from words that alternate. -/
def pairUp : List (List Char) → List (String × List Char)
  | name :: picture :: rest => (String.ofList name, picture) :: pairUp rest
  | _ => []

def skinnedTable : List (String × List Char) := pairUp (words skinnedPictures.toList)

def plainTable : List (String × List Char) := pairUp (words plainPictures.toList)

def skinTones : List (String × Char) :=
  [("_light_skin_tone", '🏻'), ("_medium-light_skin_tone", '🏼'), ("_medium_skin_tone", '🏽'),
    ("_medium-dark_skin_tone", '🏾'), ("_dark_skin_tone", '🏿')]

/-- A picture in a skin tone, which follows its first character. -/
def inTone (tone : Char) : List Char → List Char
  | [] => [tone]
  | c :: '\ufe0f' :: rest => c :: tone :: rest
  | c :: rest => c :: tone :: rest

def skinnedPicture? (name : String) : Option (List Char) :=
  skinTones.findSome? fun (suffix, tone) => do
    let base ← dropSuffix? suffix.toList name.toList
    return inTone tone (← skinnedTable.lookup (String.ofList base))

/-- The letters from which flags are made. -/
def flagLetter? (name : String) : Option (List Char) :=
  match dropPrefix? "regional_indicator_".toList name.toList with
  | some [c] =>
      if 'a' ≤ c && c ≤ 'z' then some [Char.ofNat (c.toNat - 'a'.toNat + 0x1F1E6)] else none
  | _ => none

def picture? (name : String) : Option (List Char) :=
  plainTable.lookup name <|> skinnedTable.lookup name <|> skinnedPicture? name <|> flagLetter? name

def formRequest (name : List Char) : List Char × List Char :=
  match dropSuffix? "-emoji".toList name, dropSuffix? "-text".toList name with
  | some base, _ => (base, ['\ufe0f'])
  | none, some base => (base, ['\ufe0e'])
  | none, none => (name, [])

/-- What a name between colons stands for, if the text begins with one, and its length. -/
def namedAt? : List Char → Option (List Char × Nat)
  | ':' :: rest =>
      let name := rest.takeWhile fun c => c != ':' && !isBlank c
      match rest.drop name.length with
      | ':' :: _ =>
          let (base, form) := formRequest name
          let shown := match picture? (lowerCase (String.ofList base)) with
            | some picture => picture ++ form
            | none => ':' :: name ++ [':']
          some (shown, name.length + 2)
      | _ => none
  | _ => none

/-- A text with pictures for their names. The first argument counts characters to skip. -/
def withPicturesFrom : Nat → List Char → List Char
  | _, [] => []
  | skip + 1, _ :: rest => withPicturesFrom skip rest
  | 0, c :: rest =>
      match namedAt? (c :: rest) with
      | some (shown, length) => shown ++ withPicturesFrom (length - 1) rest
      | none => c :: withPicturesFrom 0 rest

def withPictures (cs : List Char) : List Char := withPicturesFrom 0 cs

end AsmNavigator.Text
