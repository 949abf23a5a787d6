import TableClient.Url.Path

/-!
# Users of Addresses

The name and the password in front of a host.

Both are kept escaped. The password is left out if it is empty, and without a
name and a password there is no user.

## Main definitions

* `User`: A name and a password.
* `User.ofText`, `User.text`: The user a text gives, and the text of a user.
* `User.isReadable`: Whether a user can be told without the address.
-/

namespace TableClient

namespace Url

/-- A name and a password, both escaped. -/
structure User where
  name : List Char
  password : List Char
deriving DecidableEq, Repr

namespace User

/-- The user of an address that has none. -/
def nobody : User :=
  ⟨[], []⟩

/-- A part of a user with everything escaped that cannot stand in it. -/
def escape (part : List Char) : List Char :=
  encodeWith (plainExcept " \"#<>?`\x7b\x7d/:;=@[\\]^|") (Text.utf8 part)

/-- The user of a text; the first colon ends the name. -/
def ofText (text : List Char) : User :=
  ⟨escape (text.takeWhile (· != ':')), escape ((text.dropWhile (· != ':')).drop 1)⟩

/-- The text of a user with the sign behind it. -/
def text (user : User) : List Char :=
  if user == nobody then []
  else
    user.name ++ (if user.password.isEmpty then [] else ':' :: user.password) ++ ['@']

/-- Whether a text is one of UTF-8 once its escapes are undone. -/
def isText (part : List Char) : Bool :=
  (Text.ofUtf8? (decodeBytes part)).isSome

/-- Whether a user can be told without the address: the name has to be a text,
    and the password too if there is no name. -/
def isReadable (user : User) : Bool :=
  isText user.name && (!user.name.isEmpty || (!user.password.isEmpty && isText user.password))

end User

end Url

end TableClient
