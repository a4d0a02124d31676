import CBPseudo.Common.ItemList
import CBPseudo.Kern.Desktop
import CBPseudo.Kern.Fail

/-!
# Toolbox veneers — the code

The functions of `PseudoTbox.c` that do no more than inject errors. What
they are about is named by `Veneer`, a function of the Toolbox with its
arguments: values, and the addresses of what it reads and writes.
-/

namespace CBPseudo

open Common

namespace Tbox

/-- **A call of a function that has a plain veneer.** -/
inductive Veneer
  | toolboxSetClientHandle (flags : UInt32) (id : ObjectId) (clientHandle : Addr)
  | toolboxGetClientHandle (flags : UInt32) (id : ObjectId) (clientHandle : Addr)
  | toolboxGetObjectClass (flags : UInt32) (id : ObjectId) (objectClass : Option Addr)
  | toolboxGetObjectState (flags : UInt32) (id : ObjectId) (state : Option Addr)
  | iconbarGetIconHandle (flags : UInt32) (iconbar : ObjectId) (iconHandle : Option Addr)
  | saveasSetFileName (flags : UInt32) (saveas : ObjectId) (fileName : Addr)
  | saveasSetFileType (flags : UInt32) (saveas : ObjectId) (fileType : ℤ)
  | saveasGetFileType (flags : UInt32) (saveas : ObjectId) (fileType : Option Addr)
  | saveasSetFileSize (flags : UInt32) (saveas : ObjectId) (fileSize : ℤ)
  | saveasGetWindowId (flags : UInt32) (saveas : ObjectId) (window : Option Addr)
  | radiobuttonSetState (flags : UInt32) (window : ObjectId) (radioButton state : ℤ)
  | radiobuttonGetState (flags : UInt32) (window : ObjectId) (radioButton : ℤ)
      (state selected : Option Addr)
  | optionbuttonSetState (flags : UInt32) (window : ObjectId) (optionButton state : ℤ)
  | optionbuttonGetState (flags : UInt32) (window : ObjectId) (optionButton : ℤ)
      (state : Option Addr)
  | windowSetTitle (flags : UInt32) (window : ObjectId) (title : Addr)
  | windowSetExtent (flags : UInt32) (window : ObjectId) (extent : Addr)
  | windowGetExtent (flags : UInt32) (window : ObjectId) (extent : Addr)
  | windowSetPointer (flags : UInt32) (window : ObjectId) (spriteName : Option Addr)
      (xHotSpot yHotSpot : ℤ)
  | windowGetWimpHandle (flags : UInt32) (window : ObjectId) (windowHandle : Option Addr)
  | windowGetToolBars (flags : UInt32) (window : ObjectId) (ibl itl ebl etl : Option Addr)
  | windowGetPointerInfo (flags : UInt32) (xPos yPos buttons window component : Option Addr)
  | windowForceRedraw (flags : UInt32) (window : ObjectId) (redrawBox : Addr)
  | actionbuttonSetText (flags : UInt32) (window : ObjectId) (actionButton : ℤ) (text : Addr)
  | gadgetGetBbox (flags : UInt32) (window : ObjectId) (gadget : ℤ) (bbox : Addr)
  | gadgetSetHelpMessage (flags : UInt32) (window : ObjectId) (gadget : ℤ) (messageText : Addr)
  | gadgetSetFocus (flags : UInt32) (window : ObjectId) (component : ℤ)
  | buttonSetValue (flags : UInt32) (window : ObjectId) (button : ℤ) (value : Addr)
  | buttonGetValue (flags : UInt32) (window : ObjectId) (button : ℤ) (buffer : Option Addr)
      (buffSize : ℤ) (nbytes : Option Addr)
  | buttonSetValidation (flags : UInt32) (window : ObjectId) (button : ℤ) (value : Addr)
  | numberrangeSetValue (flags : UInt32) (window : ObjectId) (numberRange value : ℤ)
  | numberrangeGetValue (flags : UInt32) (window : ObjectId) (numberRange : ℤ) (value : Option Addr)
  | sliderSetValue (flags : UInt32) (window : ObjectId) (slider value : ℤ)
  | sliderSetColour (flags : UInt32) (window : ObjectId) (slider barColour backColour : ℤ)
  | menuSetTick (flags : UInt32) (menu : ObjectId) (entry tick : ℤ)
  | menuGetTick (flags : UInt32) (menu : ObjectId) (entry : ℤ) (tick : Option Addr)
  | menuSetFade (flags : UInt32) (menu : ObjectId) (entry fade : ℤ)
  | menuGetFade (flags : UInt32) (menu : ObjectId) (entry : ℤ) (fade : Option Addr)
  | menuAddEntry (flags : UInt32) (menu : ObjectId) (atEntry : ℤ) (entryDescription : Addr)
      (newEntry : Option Addr)
  | menuSetEntryText (flags : UInt32) (menu : ObjectId) (entry : ℤ) (text : Addr)
  | quitSetMessage (flags : UInt32) (quit : ObjectId) (message : Addr)
  | colourdboxGetWimpHandle (flags : UInt32) (colourdbox : ObjectId) (wimpHandle : Option Addr)
  | fileinfoGetWindowId (flags : UInt32) (fileinfo : ObjectId) (window : Option Addr)
  | proginfoGetWindowId (flags : UInt32) (proginfo : ObjectId) (window : Option Addr)
  | scaleGetWindowId (flags : UInt32) (scale : ObjectId) (window : Option Addr)
  | fontdboxGetWindowId (flags : UInt32) (fontdbox : ObjectId) (window : Option Addr)
  | quitGetWindowId (flags : UInt32) (quit : ObjectId) (window : Option Addr)
  | dcsGetWindowId (flags : UInt32) (dcs : ObjectId) (window : Option Addr)
  | printdboxGetWindowId (flags : UInt32) (printdbox : ObjectId) (window : Option Addr)
  deriving DecidableEq

/-- The Toolbox's own functions. -/
abbrev VeneerLib (σ : Type) := Veneer → σ → Option KernelOserror × σ

section Functions

variable {σ : Type} (K : Kernel) (V : VeneerLib σ) (allow : Bool)

def pseudoToolboxSetClientHandle (flags : UInt32) (id : ObjectId) (clientHandle : Addr) (env : σ) :
    Option KernelOserror × σ :=
  veneer K allow (V (.toolboxSetClientHandle flags id clientHandle)) env

def pseudoToolboxGetClientHandle (flags : UInt32) (id : ObjectId) (clientHandle : Addr) (env : σ) :
    Option KernelOserror × σ :=
  veneer K allow (V (.toolboxGetClientHandle flags id clientHandle)) env

def pseudoToolboxGetObjectClass (flags : UInt32) (id : ObjectId) (objectClass : Option Addr)
    (env : σ) : Option KernelOserror × σ :=
  veneer K allow (V (.toolboxGetObjectClass flags id objectClass)) env

def pseudoToolboxGetObjectState (flags : UInt32) (id : ObjectId) (state : Option Addr) (env : σ) :
    Option KernelOserror × σ :=
  veneer K allow (V (.toolboxGetObjectState flags id state)) env

def pseudoIconbarGetIconHandle (flags : UInt32) (iconbar : ObjectId) (iconHandle : Option Addr)
    (env : σ) : Option KernelOserror × σ :=
  veneer K allow (V (.iconbarGetIconHandle flags iconbar iconHandle)) env

def pseudoSaveasSetFileName (flags : UInt32) (saveas : ObjectId) (fileName : Addr) (env : σ) :
    Option KernelOserror × σ :=
  veneer K allow (V (.saveasSetFileName flags saveas fileName)) env

def pseudoSaveasSetFileType (flags : UInt32) (saveas : ObjectId) (fileType : ℤ) (env : σ) :
    Option KernelOserror × σ :=
  veneer K allow (V (.saveasSetFileType flags saveas fileType)) env

def pseudoSaveasGetFileType (flags : UInt32) (saveas : ObjectId) (fileType : Option Addr)
    (env : σ) : Option KernelOserror × σ :=
  veneer K allow (V (.saveasGetFileType flags saveas fileType)) env

def pseudoSaveasSetFileSize (flags : UInt32) (saveas : ObjectId) (fileSize : ℤ) (env : σ) :
    Option KernelOserror × σ :=
  veneer K allow (V (.saveasSetFileSize flags saveas fileSize)) env

def pseudoSaveasGetWindowId (flags : UInt32) (saveas : ObjectId) (window : Option Addr) (env : σ) :
    Option KernelOserror × σ :=
  veneer K allow (V (.saveasGetWindowId flags saveas window)) env

def pseudoRadiobuttonSetState (flags : UInt32) (window : ObjectId) (radioButton state : ℤ)
    (env : σ) : Option KernelOserror × σ :=
  veneer K allow (V (.radiobuttonSetState flags window radioButton state)) env

def pseudoRadiobuttonGetState (flags : UInt32) (window : ObjectId) (radioButton : ℤ)
    (state selected : Option Addr) (env : σ) : Option KernelOserror × σ :=
  veneer K allow (V (.radiobuttonGetState flags window radioButton state selected)) env

def pseudoOptionbuttonSetState (flags : UInt32) (window : ObjectId) (optionButton state : ℤ)
    (env : σ) : Option KernelOserror × σ :=
  veneer K allow (V (.optionbuttonSetState flags window optionButton state)) env

def pseudoOptionbuttonGetState (flags : UInt32) (window : ObjectId) (optionButton : ℤ)
    (state : Option Addr) (env : σ) : Option KernelOserror × σ :=
  veneer K allow (V (.optionbuttonGetState flags window optionButton state)) env

def pseudoWindowSetTitle (flags : UInt32) (window : ObjectId) (title : Addr) (env : σ) :
    Option KernelOserror × σ :=
  veneer K allow (V (.windowSetTitle flags window title)) env

def pseudoWindowSetExtent (flags : UInt32) (window : ObjectId) (extent : Addr) (env : σ) :
    Option KernelOserror × σ :=
  veneer K allow (V (.windowSetExtent flags window extent)) env

def pseudoWindowGetExtent (flags : UInt32) (window : ObjectId) (extent : Addr) (env : σ) :
    Option KernelOserror × σ :=
  veneer K allow (V (.windowGetExtent flags window extent)) env

def pseudoWindowSetPointer (flags : UInt32) (window : ObjectId) (spriteName : Option Addr)
    (xHotSpot yHotSpot : ℤ) (env : σ) : Option KernelOserror × σ :=
  veneer K allow (V (.windowSetPointer flags window spriteName xHotSpot yHotSpot)) env

def pseudoWindowGetWimpHandle (flags : UInt32) (window : ObjectId) (windowHandle : Option Addr)
    (env : σ) : Option KernelOserror × σ :=
  veneer K allow (V (.windowGetWimpHandle flags window windowHandle)) env

def pseudoWindowGetToolBars (flags : UInt32) (window : ObjectId) (ibl itl ebl etl : Option Addr)
    (env : σ) : Option KernelOserror × σ :=
  veneer K allow (V (.windowGetToolBars flags window ibl itl ebl etl)) env

def pseudoWindowGetPointerInfo (flags : UInt32) (xPos yPos buttons window component : Option Addr)
    (env : σ) : Option KernelOserror × σ :=
  veneer K allow (V (.windowGetPointerInfo flags xPos yPos buttons window component)) env

def pseudoWindowForceRedraw (flags : UInt32) (window : ObjectId) (redrawBox : Addr) (env : σ) :
    Option KernelOserror × σ :=
  veneer K allow (V (.windowForceRedraw flags window redrawBox)) env

def pseudoActionbuttonSetText (flags : UInt32) (window : ObjectId) (actionButton : ℤ) (text : Addr)
    (env : σ) : Option KernelOserror × σ :=
  veneer K allow (V (.actionbuttonSetText flags window actionButton text)) env

def pseudoGadgetGetBbox (flags : UInt32) (window : ObjectId) (gadget : ℤ) (bbox : Addr) (env : σ) :
    Option KernelOserror × σ :=
  veneer K allow (V (.gadgetGetBbox flags window gadget bbox)) env

def pseudoGadgetSetHelpMessage (flags : UInt32) (window : ObjectId) (gadget : ℤ)
    (messageText : Addr) (env : σ) : Option KernelOserror × σ :=
  veneer K allow (V (.gadgetSetHelpMessage flags window gadget messageText)) env

def pseudoGadgetSetFocus (flags : UInt32) (window : ObjectId) (component : ℤ) (env : σ) :
    Option KernelOserror × σ :=
  veneer K allow (V (.gadgetSetFocus flags window component)) env

def pseudoButtonSetValue (flags : UInt32) (window : ObjectId) (button : ℤ) (value : Addr)
    (env : σ) : Option KernelOserror × σ :=
  veneer K allow (V (.buttonSetValue flags window button value)) env

def pseudoButtonGetValue (flags : UInt32) (window : ObjectId) (button : ℤ) (buffer : Option Addr)
    (buffSize : ℤ) (nbytes : Option Addr) (env : σ) : Option KernelOserror × σ :=
  veneer K allow (V (.buttonGetValue flags window button buffer buffSize nbytes)) env

def pseudoButtonSetValidation (flags : UInt32) (window : ObjectId) (button : ℤ) (value : Addr)
    (env : σ) : Option KernelOserror × σ :=
  veneer K allow (V (.buttonSetValidation flags window button value)) env

def pseudoNumberrangeSetValue (flags : UInt32) (window : ObjectId) (numberRange value : ℤ)
    (env : σ) : Option KernelOserror × σ :=
  veneer K allow (V (.numberrangeSetValue flags window numberRange value)) env

def pseudoNumberrangeGetValue (flags : UInt32) (window : ObjectId) (numberRange : ℤ)
    (value : Option Addr) (env : σ) : Option KernelOserror × σ :=
  veneer K allow (V (.numberrangeGetValue flags window numberRange value)) env

def pseudoSliderSetValue (flags : UInt32) (window : ObjectId) (slider value : ℤ) (env : σ) :
    Option KernelOserror × σ :=
  veneer K allow (V (.sliderSetValue flags window slider value)) env

def pseudoSliderSetColour (flags : UInt32) (window : ObjectId) (slider barColour backColour : ℤ)
    (env : σ) : Option KernelOserror × σ :=
  veneer K allow (V (.sliderSetColour flags window slider barColour backColour)) env

def pseudoMenuSetTick (flags : UInt32) (menu : ObjectId) (entry tick : ℤ) (env : σ) :
    Option KernelOserror × σ :=
  veneer K allow (V (.menuSetTick flags menu entry tick)) env

def pseudoMenuGetTick (flags : UInt32) (menu : ObjectId) (entry : ℤ) (tick : Option Addr)
    (env : σ) : Option KernelOserror × σ :=
  veneer K allow (V (.menuGetTick flags menu entry tick)) env

def pseudoMenuSetFade (flags : UInt32) (menu : ObjectId) (entry fade : ℤ) (env : σ) :
    Option KernelOserror × σ :=
  veneer K allow (V (.menuSetFade flags menu entry fade)) env

def pseudoMenuGetFade (flags : UInt32) (menu : ObjectId) (entry : ℤ) (fade : Option Addr)
    (env : σ) : Option KernelOserror × σ :=
  veneer K allow (V (.menuGetFade flags menu entry fade)) env

def pseudoMenuAddEntry (flags : UInt32) (menu : ObjectId) (atEntry : ℤ) (entryDescription : Addr)
    (newEntry : Option Addr) (env : σ) : Option KernelOserror × σ :=
  veneer K allow (V (.menuAddEntry flags menu atEntry entryDescription newEntry)) env

def pseudoMenuSetEntryText (flags : UInt32) (menu : ObjectId) (entry : ℤ) (text : Addr) (env : σ) :
    Option KernelOserror × σ :=
  veneer K allow (V (.menuSetEntryText flags menu entry text)) env

def pseudoQuitSetMessage (flags : UInt32) (quit : ObjectId) (message : Addr) (env : σ) :
    Option KernelOserror × σ :=
  veneer K allow (V (.quitSetMessage flags quit message)) env

def pseudoColourdboxGetWimpHandle (flags : UInt32) (colourdbox : ObjectId)
    (wimpHandle : Option Addr) (env : σ) : Option KernelOserror × σ :=
  veneer K allow (V (.colourdboxGetWimpHandle flags colourdbox wimpHandle)) env

def pseudoFileinfoGetWindowId (flags : UInt32) (fileinfo : ObjectId) (window : Option Addr)
    (env : σ) : Option KernelOserror × σ :=
  veneer K allow (V (.fileinfoGetWindowId flags fileinfo window)) env

def pseudoProginfoGetWindowId (flags : UInt32) (proginfo : ObjectId) (window : Option Addr)
    (env : σ) : Option KernelOserror × σ :=
  veneer K allow (V (.proginfoGetWindowId flags proginfo window)) env

def pseudoScaleGetWindowId (flags : UInt32) (scale : ObjectId) (window : Option Addr) (env : σ) :
    Option KernelOserror × σ :=
  veneer K allow (V (.scaleGetWindowId flags scale window)) env

def pseudoFontdboxGetWindowId (flags : UInt32) (fontdbox : ObjectId) (window : Option Addr)
    (env : σ) : Option KernelOserror × σ :=
  veneer K allow (V (.fontdboxGetWindowId flags fontdbox window)) env

def pseudoQuitGetWindowId (flags : UInt32) (quit : ObjectId) (window : Option Addr) (env : σ) :
    Option KernelOserror × σ :=
  veneer K allow (V (.quitGetWindowId flags quit window)) env

def pseudoDcsGetWindowId (flags : UInt32) (dcs : ObjectId) (window : Option Addr) (env : σ) :
    Option KernelOserror × σ :=
  veneer K allow (V (.dcsGetWindowId flags dcs window)) env

def pseudoPrintdboxGetWindowId (flags : UInt32) (printdbox : ObjectId) (window : Option Addr)
    (env : σ) : Option KernelOserror × σ :=
  veneer K allow (V (.printdboxGetWindowId flags printdbox window)) env

/-- The veneer of each function. -/
def Veneer.substitute : Veneer → σ → Option KernelOserror × σ
  | .toolboxSetClientHandle flags id clientHandle, env =>
    pseudoToolboxSetClientHandle K V allow flags id clientHandle env
  | .toolboxGetClientHandle flags id clientHandle, env =>
    pseudoToolboxGetClientHandle K V allow flags id clientHandle env
  | .toolboxGetObjectClass flags id objectClass, env =>
    pseudoToolboxGetObjectClass K V allow flags id objectClass env
  | .toolboxGetObjectState flags id state, env =>
    pseudoToolboxGetObjectState K V allow flags id state env
  | .iconbarGetIconHandle flags iconbar iconHandle, env =>
    pseudoIconbarGetIconHandle K V allow flags iconbar iconHandle env
  | .saveasSetFileName flags saveas fileName, env =>
    pseudoSaveasSetFileName K V allow flags saveas fileName env
  | .saveasSetFileType flags saveas fileType, env =>
    pseudoSaveasSetFileType K V allow flags saveas fileType env
  | .saveasGetFileType flags saveas fileType, env =>
    pseudoSaveasGetFileType K V allow flags saveas fileType env
  | .saveasSetFileSize flags saveas fileSize, env =>
    pseudoSaveasSetFileSize K V allow flags saveas fileSize env
  | .saveasGetWindowId flags saveas window, env =>
    pseudoSaveasGetWindowId K V allow flags saveas window env
  | .radiobuttonSetState flags window radioButton state, env =>
    pseudoRadiobuttonSetState K V allow flags window radioButton state env
  | .radiobuttonGetState flags window radioButton state selected, env =>
    pseudoRadiobuttonGetState K V allow flags window radioButton state selected env
  | .optionbuttonSetState flags window optionButton state, env =>
    pseudoOptionbuttonSetState K V allow flags window optionButton state env
  | .optionbuttonGetState flags window optionButton state, env =>
    pseudoOptionbuttonGetState K V allow flags window optionButton state env
  | .windowSetTitle flags window title, env => pseudoWindowSetTitle K V allow flags window title env
  | .windowSetExtent flags window extent, env =>
    pseudoWindowSetExtent K V allow flags window extent env
  | .windowGetExtent flags window extent, env =>
    pseudoWindowGetExtent K V allow flags window extent env
  | .windowSetPointer flags window spriteName xHotSpot yHotSpot, env =>
    pseudoWindowSetPointer K V allow flags window spriteName xHotSpot yHotSpot env
  | .windowGetWimpHandle flags window windowHandle, env =>
    pseudoWindowGetWimpHandle K V allow flags window windowHandle env
  | .windowGetToolBars flags window ibl itl ebl etl, env =>
    pseudoWindowGetToolBars K V allow flags window ibl itl ebl etl env
  | .windowGetPointerInfo flags xPos yPos buttons window component, env =>
    pseudoWindowGetPointerInfo K V allow flags xPos yPos buttons window component env
  | .windowForceRedraw flags window redrawBox, env =>
    pseudoWindowForceRedraw K V allow flags window redrawBox env
  | .actionbuttonSetText flags window actionButton text, env =>
    pseudoActionbuttonSetText K V allow flags window actionButton text env
  | .gadgetGetBbox flags window gadget bbox, env =>
    pseudoGadgetGetBbox K V allow flags window gadget bbox env
  | .gadgetSetHelpMessage flags window gadget messageText, env =>
    pseudoGadgetSetHelpMessage K V allow flags window gadget messageText env
  | .gadgetSetFocus flags window component, env =>
    pseudoGadgetSetFocus K V allow flags window component env
  | .buttonSetValue flags window button value, env =>
    pseudoButtonSetValue K V allow flags window button value env
  | .buttonGetValue flags window button buffer buffSize nbytes, env =>
    pseudoButtonGetValue K V allow flags window button buffer buffSize nbytes env
  | .buttonSetValidation flags window button value, env =>
    pseudoButtonSetValidation K V allow flags window button value env
  | .numberrangeSetValue flags window numberRange value, env =>
    pseudoNumberrangeSetValue K V allow flags window numberRange value env
  | .numberrangeGetValue flags window numberRange value, env =>
    pseudoNumberrangeGetValue K V allow flags window numberRange value env
  | .sliderSetValue flags window slider value, env =>
    pseudoSliderSetValue K V allow flags window slider value env
  | .sliderSetColour flags window slider barColour backColour, env =>
    pseudoSliderSetColour K V allow flags window slider barColour backColour env
  | .menuSetTick flags menu entry tick, env => pseudoMenuSetTick K V allow flags menu entry tick env
  | .menuGetTick flags menu entry tick, env => pseudoMenuGetTick K V allow flags menu entry tick env
  | .menuSetFade flags menu entry fade, env => pseudoMenuSetFade K V allow flags menu entry fade env
  | .menuGetFade flags menu entry fade, env => pseudoMenuGetFade K V allow flags menu entry fade env
  | .menuAddEntry flags menu atEntry entryDescription newEntry, env =>
    pseudoMenuAddEntry K V allow flags menu atEntry entryDescription newEntry env
  | .menuSetEntryText flags menu entry text, env =>
    pseudoMenuSetEntryText K V allow flags menu entry text env
  | .quitSetMessage flags quit message, env => pseudoQuitSetMessage K V allow flags quit message env
  | .colourdboxGetWimpHandle flags colourdbox wimpHandle, env =>
    pseudoColourdboxGetWimpHandle K V allow flags colourdbox wimpHandle env
  | .fileinfoGetWindowId flags fileinfo window, env =>
    pseudoFileinfoGetWindowId K V allow flags fileinfo window env
  | .proginfoGetWindowId flags proginfo window, env =>
    pseudoProginfoGetWindowId K V allow flags proginfo window env
  | .scaleGetWindowId flags scale window, env =>
    pseudoScaleGetWindowId K V allow flags scale window env
  | .fontdboxGetWindowId flags fontdbox window, env =>
    pseudoFontdboxGetWindowId K V allow flags fontdbox window env
  | .quitGetWindowId flags quit window, env => pseudoQuitGetWindowId K V allow flags quit window env
  | .dcsGetWindowId flags dcs window, env => pseudoDcsGetWindowId K V allow flags dcs window env
  | .printdboxGetWindowId flags printdbox window, env =>
    pseudoPrintdboxGetWindowId K V allow flags printdbox window env

end Functions

/-- **Each is the plain one.** -/
theorem Veneer.substitute_eq {σ : Type} (K : Kernel) (V : VeneerLib σ) (allow : Bool) (c : Veneer)
    (env : σ) : c.substitute K V allow env = veneer K allow (V c) env := by
  cases c <;> rfl

end Tbox

end CBPseudo
