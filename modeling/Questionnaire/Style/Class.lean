/-! The classes by which markup and stylesheet know each other. -/

namespace Questionnaire.Style

def documentClass : String := "qf-document"

def slideClass : String := "qf-slide"

def formClass : String := "qf-form"

def fieldClass : String := "qf-field"

def requiredClass : String := "qf-required"

def unmatchedClass : String := "qf-unmatched"

def labelClass : String := "qf-label"

def choiceClass : String := "qf-choice"

def correctClass : String := "qf-correct"

end Questionnaire.Style
