namespace Worldsmith

def hubName : String := "Hub"

def entranceName (level : String) : String := hubName ++ " @ Entrance to " ++ level

def regionName (level region : String) : String := level ++ " @ " ++ region

end Worldsmith
