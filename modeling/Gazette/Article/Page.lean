/-!
# Pages of a listing

* `Page` asks for one page of a listing: its number, counted from one, and how many rows a page has.
* `Page.offset` and `Page.limit` say which rows are on it, `Page.pageCount` how many pages there are, and
  `Page.hasMore` whether there are rows beyond it.
-/

namespace Gazette

@[ext] structure Page where
  number : UInt32
  size : UInt32
  number_ne_zero : number ≠ 0
  size_ne_zero : size ≠ 0
  deriving DecidableEq, Repr

inductive PageError
  | zeroNumber
  | zeroSize
  deriving DecidableEq, Repr

def PageError.message : PageError → String
  | .zeroNumber => "Invalid page: pages are numbered from 1"
  | .zeroSize => "Invalid page size: size must be at least 1"

namespace Page

def make (number size : UInt32) : Except PageError Page :=
  if number_ne_zero : number ≠ 0 then
    if size_ne_zero : size ≠ 0 then .ok ⟨number, size, number_ne_zero, size_ne_zero⟩
    else .error .zeroSize
  else .error .zeroNumber

def first : Page := ⟨1, 10, by decide, by decide⟩

def offset (page : Page) : UInt64 := (page.number - 1).toUInt64 * page.size.toUInt64

def limit (page : Page) : UInt64 := page.size.toUInt64

def pageCount (page : Page) (total : UInt64) : UInt64 :=
  if total % page.limit = 0 then total / page.limit else total / page.limit + 1

def hasMore (page : Page) (total : UInt64) : Bool := page.number.toUInt64 * page.size.toUInt64 < total

end Page

end Gazette
