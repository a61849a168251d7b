import FloodRisk.Lib.Replace
import FloodRisk.Lib.Worklist
import FloodRisk.Values

/-!
# Spellings of an address (domain/geocoding/normalization.py)

A text is the list of its code points. NFKC and case folding are parameters.
-/

namespace FloodRisk.Geocoding
open Replace

abbrev Text := List Char

scoped instance lawfulBEq_text : LawfulBEq Text := inferInstance

/-- `SEPARATOR_RE`: one code point of the class. -/
def isSeparator (c : Char) : Bool :=
  isWhitespace c || c ∈ "　,，、。．.·・/／\\|;；:：_＿-－()（）[]【】「」『』".toList

/-- `SECTION_DIGITS`. -/
def sectionDigits : List (Char × Text) :=
  [('一', ['1']), ('二', ['2']), ('三', ['3']), ('四', ['4']), ('五', ['5']), ('六', ['6']),
    ('七', ['7']), ('八', ['8']), ('九', ['9']), ('十', ['1', '0'])]

/-- `str.strip()`. -/
def stripText (text : Text) : Text :=
  ((text.dropWhile isWhitespace).reverse.dropWhile isWhitespace).reverse

def taiVariants (value : Text) : List Text :=
  (if '臺' ∈ value then [replaceAll ['臺'] ['台'] value] else []) ++
    if '台' ∈ value then [replaceAll ['台'] ['臺'] value] else []

/-- The numeral before 段 is written the other way. -/
def sectionVariants (value : Text) : List Text :=
  ((sectionDigits.map fun entry =>
      replaceAll (entry.1 :: ['段']) (entry.2 ++ ['段']) value) ++
    sectionDigits.map fun entry =>
      replaceAll (entry.2 ++ ['段']) (entry.1 :: ['段']) value).filter fun variant =>
        variant ≠ value

def variantsOf (current : Text) : List Text := taiVariants current ++ sectionVariants current

section Unicode

variable (nfkc casefold : Text → Text)

def normalizeTaiwanAddressText (value : Text) : Text :=
  replaceAll ['臺'] ['台']
    (casefold (stripText ((nfkc value).filter fun c => c ≠ '\ufeff')))

def compactTaiwanQueryKey (value : Text) : Text :=
  (normalizeTaiwanAddressText nfkc casefold value).filter fun c => !isSeparator c

/-- `_address_variants`, for at most `turns` turns of its loop. -/
def addressVariants (turns : ℕ) (value : Text) : Option (List Text) :=
  let text := stripText (nfkc value)
  if text.isEmpty then some []
  else
    Worklist.visit List.isEmpty variantsOf [text, compactTaiwanQueryKey nfkc casefold text] turns

/-- The inner loop of `normalized_aliases`: the aliases with those of the candidates, and
whether the limit is reached. -/
def addAliases (limit : ℕ) : List Text → List Text → List Text × Bool
  | aliases, [] => (aliases, false)
  | aliases, candidate :: rest =>
      let normalized := compactTaiwanQueryKey nfkc casefold candidate
      if !normalized.isEmpty && normalized ∉ aliases then
        if limit ≤ aliases.length + 1 then (aliases ++ [normalized], true)
        else addAliases limit (aliases ++ [normalized]) rest
      else addAliases limit aliases rest

/-- `normalized_aliases`, each value for at most `turns` turns. -/
def normalizedAliases (turns limit : ℕ) : List Text → List Text → Option (List Text)
  | aliases, [] => some aliases
  | aliases, value :: rest =>
      match addressVariants nfkc casefold turns value with
      | none => none
      | some candidates =>
          match addAliases nfkc casefold limit aliases candidates with
          | (found, true) => some found
          | (found, false) => normalizedAliases turns limit found rest

end Unicode

end FloodRisk.Geocoding
