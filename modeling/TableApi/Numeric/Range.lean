/-
The ranges of the machine integers that keys, page sizes and settings
are held to.
-/

namespace TableApi

def int64Min : Int := -9223372036854775808

def int64Max : Int := 9223372036854775807

def nat64Max : Nat := 18446744073709551615

def nat32Max : Nat := 4294967295

def nat16Max : Nat := 65535

end TableApi
