import Multifiling.QName

/-!
The namespaces and names that every repository knows: the content, system, application and
rendition models, their prefixes, and the association types that exist without configuration.
-/

namespace Multifiling.ContentModel

def contentUri : String := "http://www.alfresco.org/model/content/1.0"
def systemUri : String := "http://www.alfresco.org/model/system/1.0"
def applicationUri : String := "http://www.alfresco.org/model/application/1.0"
def renditionUri : String := "http://www.alfresco.org/model/rendition/1.0"

/-- The built-in prefixes, in the order in which they are registered. -/
def namespaces : List (String × String) :=
  [("cm", contentUri), ("sys", systemUri), ("app", applicationUri), ("rn", renditionUri)]

/-- The built-in association types, in prefixed form. -/
def associationTypes : List String :=
  ["cm:contains", "sys:children", "cm:subcategories", "rn:rendition"]

/-- The association type of ordinary folder contents. -/
def contains : QName := ⟨contentUri, "contains", by decide⟩

def folder : QName := ⟨contentUri, "folder", by decide⟩

/-- The node type of documents. -/
def content : QName := ⟨contentUri, "content", by decide⟩

end Multifiling.ContentModel
